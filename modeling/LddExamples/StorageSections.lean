import LddExamples.LockedSections
import LddExamples.StorageRuns

/-!
# The storage handlers, one access at a time

The handlers of `003_char_block_storage_device/storage_kernel.c` as the sections under
`storage_mutex` that they are. Every look at the lock table is a step, and so is every byte
that a copy or an erasure moves; the steps of any number of threads come in any order. A
call of a section carries what its handler has checked before it waits for the mutex. The
calls that return before the mutex depend on their arguments and the keys alone.

`mirror_sector` reads the buffer without the mutex, and is not among the calls.
-/

namespace LddExamples.StorageSections

open Runs ByteWindows KernelInterface StorageDevice StorageRuns
open LockedSections hiding step System

/-- What a call returns: a read or write with its offset, or a command. -/
inductive Answer where
  | file (served : Served)
  | command (reply : Reply)

/-- The argument of a command names this sector. -/
def Names (arg : UserSource) (sector : Int) : Prop :=
  copyIntFromUser arg = some sector ∧ 0 ≤ sector ∧ sector < storageNumSectors

/-- The calls that get to the mutex, with what has been checked before. -/
inductive MutexCall (userKeys : List (Option (List UInt8))) where
  | read (length room offset : Nat) (inside : offset < storageTotalSize)
  | write (source : UserSource) (length offset : Nat) (inside : offset < storageTotalSize)
  | lockSector (arg : UserSource) (sector : Int) (names : Names arg sector)
  | unlockSector (arg : UserSource) (complete : arg.uncopied 4 = 0)
      (lower : 0 ≤ (decodeUnlockRequest (arg.landed 4)).sector)
      (upper : (decodeUnlockRequest (arg.landed 4)).sector < storageNumSectors)
      (known : keyAccepted userKeys (decodeUnlockRequest (arg.landed 4)).key = true)
  | getLockInfo (room : Nat)
  | eraseSector (arg : UserSource) (sector : Int) (names : Names arg sector)

/-- What a section does next, with what it has read so far. -/
inductive Locals where
  | copyOut (copied : List UInt8) (left length room offset : Nat)
  | scan (sectors : List Int) (source : UserSource) (length offset : Nat)
  | copyIn (bytes : List UInt8) (index : Nat) (answer : Answer)
  | setLock (sector : Int) (locked : Bool)
  | inspect (inspected : List UInt8) (left room : Nat)
  | eraseTest (sector : Int)

/-- What a read returns after its copy. -/
def readAnswer (copied : List UInt8) (length room offset : Nat) : Answer :=
  if length - room ≠ 0 then .file ⟨-efault, offset, copied⟩
  else .file ⟨length, offset + length, copied⟩

/-- What a write returns after its copy. -/
def writeAnswer (source : UserSource) (length offset : Nat) : Answer :=
  if source.uncopied length ≠ 0 then .file ⟨-efault, offset, []⟩
  else .file ⟨length, offset + length, []⟩

/-- The reply to a request for the lock table. -/
def infoAnswer (lockInfo : List UInt8) (room : Nat) : Answer :=
  let (data, missing) := copyToUser lockInfo room
  .command ⟨if missing ≠ 0 then -efault else 0, data⟩

/-- One access of the buffer or of the lock table. -/
def access (storage : Storage) : Locals → Storage × Progress Locals Answer
  | .copyOut copied left length room offset =>
      match left with
      | 0 => (storage, .ends (readAnswer copied length room offset))
      | left + 1 =>
          (storage, .goesOn (.copyOut (copied ++ [storage.storageBuffer (offset + copied.length)])
            left length room offset))
  | .scan sectors source length offset =>
      match sectors with
      | [] => (storage, .goesOn (.copyIn (source.landed length) offset
          (writeAnswer source length offset)))
      | s :: sectors =>
          if storage.sectorLockState s then (storage, .ends (.file ⟨-eperm, offset, []⟩))
          else (storage, .goesOn (.scan sectors source length offset))
  | .copyIn bytes index answer =>
      match bytes with
      | [] => (storage, .ends answer)
      | byte :: bytes =>
          ({ storage with storageBuffer := store storage.storageBuffer index [byte] },
            .goesOn (.copyIn bytes (index + 1) answer))
  | .setLock sector locked =>
      ({ storage with sectorLockState := Function.update storage.sectorLockState sector locked },
        .ends (.command ⟨0, []⟩))
  | .inspect inspected left room =>
      match left with
      | 0 => (storage, .ends (infoAnswer inspected room))
      | left + 1 =>
          let locked := storage.sectorLockState inspected.length
          (storage, .goesOn (.inspect (inspected ++ [if locked then 1 else 0]) left room))
  | .eraseTest sector =>
      if storage.sectorLockState sector then (storage, .ends (.command ⟨-eperm, []⟩))
      else (storage, .goesOn (.copyIn (List.replicate storageSectorSize 0)
        (sector.toNat * storageSectorSize) (.command ⟨0, []⟩)))

/-- The accesses that a section has left, at most. -/
def accessesLeft : Locals → Nat
  | .copyOut _ left _ _ _ => left
  | .scan sectors source length _ => sectors.length + (source.landed length).length + 1
  | .copyIn bytes _ _ => bytes.length
  | .setLock _ _ => 0
  | .inspect _ left _ => left
  | .eraseTest _ => storageSectorSize + 1

/-- Every access that does not end its section leaves fewer. -/
theorem accesses_shrink (storage : Storage) (locals : Locals) (next : Storage) (rest : Locals)
    (went : access storage locals = (next, .goesOn rest)) :
    accessesLeft rest < accessesLeft locals := by
  cases locals with
  | copyOut copied left length room offset =>
    cases left with
    | zero => simp [access] at went
    | succ left =>
      rw [← Progress.goesOn.inj (Prod.mk.inj went).2]
      exact Nat.lt_succ_self _
  | scan sectors source length offset =>
    cases sectors with
    | nil =>
      rw [← Progress.goesOn.inj (Prod.mk.inj went).2]
      simp only [accessesLeft, List.length_nil]
      omega
    | cons s sectors =>
      simp only [access] at went
      split at went
      · simp at went
      · rw [← Progress.goesOn.inj (Prod.mk.inj went).2]
        simp only [accessesLeft, List.length_cons]
        omega
  | copyIn bytes index answer =>
    cases bytes with
    | nil => simp [access] at went
    | cons byte bytes =>
      rw [← Progress.goesOn.inj (Prod.mk.inj went).2]
      exact Nat.lt_succ_self _
  | setLock => simp [access] at went
  | inspect inspected left room =>
    cases left with
    | zero => simp [access] at went
    | succ left =>
      rw [← Progress.goesOn.inj (Prod.mk.inj went).2]
      exact Nat.lt_succ_self _
  | eraseTest sector =>
    simp only [access] at went
    split at went
    · simp at went
    · rw [← Progress.goesOn.inj (Prod.mk.inj went).2]
      simp only [accessesLeft, List.length_replicate]
      omega

variable {userKeys : List (Option (List UInt8))}

/-- The sections, on a kernel whose `size_t` has this many bits. -/
def code (sizeT : Nat) (userKeys : List (Option (List UInt8))) :
    Code Storage (MutexCall userKeys) Locals Answer where
  start
    | .read length room offset _ =>
        .copyOut [] (min room (clampedLength sizeT offset length))
          (clampedLength sizeT offset length) room offset
    | .write source length offset _ =>
        .scan (scannedSectors sizeT offset (clampedLength sizeT offset length)) source
          (clampedLength sizeT offset length) offset
    | .lockSector _ sector _ => .setLock sector true
    | .unlockSector arg _ _ _ _ => .setLock (decodeUnlockRequest (arg.landed 4)).sector false
    | .getLockInfo room => .inspect [] 8 room
    | .eraseSector _ sector _ => .eraseTest sector
  access := access
  left := accessesLeft
  shrinks := accesses_shrink

/-- The handlers at once. -/
def handle (sizeT : Nat) (storage : Storage) : MutexCall userKeys → Storage × Answer
  | .read length room offset _ =>
      (storage, .file (storageRead sizeT storage length room offset false))
  | .write source length offset _ =>
      let stored := storageWrite sizeT storage source length offset false
      (stored.state, .file ⟨stored.ret, stored.offset, []⟩)
  | .lockSector arg _ _ =>
      let (storage, reply) := StorageDevice.lockSector storage arg
      (storage, .command reply)
  | .unlockSector arg _ _ _ _ =>
      let (storage, reply) := StorageDevice.unlockSector storage arg false
      (storage, .command reply)
  | .getLockInfo room => (storage, .command (StorageDevice.getLockInfo storage room))
  | .eraseSector arg _ _ =>
      let (storage, reply) := StorageDevice.eraseSector storage arg
      (storage, .command reply)

section Whole

variable (userKeys) (sizeT : Nat) (storage : Storage)

/-- A copy into the buffer stores its bytes. -/
theorem whole_copy_in (bytes : List UInt8) (index : Nat) (answer : Answer) :
    (code sizeT userKeys).whole storage (.copyIn bytes index answer) =
      ({ storage with storageBuffer := store storage.storageBuffer index bytes }, answer) := by
  induction bytes generalizing storage index with
  | nil =>
    rw [whole_ends (code sizeT userKeys) storage storage (.copyIn [] index answer) answer rfl,
      store_nil]
  | cons byte bytes inductionHypothesis =>
    have joined := store_append storage.storageBuffer index [byte] bytes
    rw [whole_goes_on (code sizeT userKeys) storage _ (.copyIn (byte :: bytes) index answer) _ rfl,
      inductionHypothesis]
    exact congrArg (fun buffer => ({ storage with storageBuffer := buffer }, answer)) joined

/-- A copy out of the buffer returns the bytes that follow those it has. -/
theorem whole_copy_out (copied : List UInt8) (left length room offset : Nat) :
    (code sizeT userKeys).whole storage (.copyOut copied left length room offset) =
      (storage, readAnswer (copied ++ load storage.storageBuffer (offset + copied.length) left)
        length room offset) := by
  induction left generalizing copied with
  | zero =>
    rw [whole_ends (code sizeT userKeys) storage storage (.copyOut copied 0 length room offset) _
      rfl, load_zero, List.append_nil]
  | succ left inductionHypothesis =>
    have joined := load_append storage.storageBuffer (offset + copied.length) 1 left
    rw [whole_goes_on (code sizeT userKeys) storage storage
        (.copyOut copied (left + 1) length room offset) _ rfl, inductionHypothesis,
      List.append_assoc, List.length_append, Nat.add_comm left 1, ← joined]
    rfl

/-- A scan refuses the write at the first lock that it finds, and else lets it copy. -/
theorem whole_scan (sectors : List Int) (source : UserSource) (length offset : Nat) :
    (code sizeT userKeys).whole storage (.scan sectors source length offset) =
      if sectors.any storage.sectorLockState then (storage, .file ⟨-eperm, offset, []⟩)
      else ({ storage with
          storageBuffer := store storage.storageBuffer offset (source.landed length) },
        writeAnswer source length offset) := by
  induction sectors with
  | nil =>
    rw [whole_goes_on (code sizeT userKeys) storage storage (.scan [] source length offset) _ rfl,
      whole_copy_in]
    rfl
  | cons s sectors inductionHypothesis =>
    by_cases locked : storage.sectorLockState s = true
    · rw [whole_ends (code sizeT userKeys) storage storage
        (.scan (s :: sectors) source length offset) (.file ⟨-eperm, offset, []⟩) (if_pos locked)]
      simp only [List.any_cons, locked, Bool.true_or, if_true]
    · rw [whole_goes_on (code sizeT userKeys) storage storage
        (.scan (s :: sectors) source length offset) (.scan sectors source length offset)
        (if_neg locked), inductionHypothesis]
      simp only [List.any_cons, Bool.eq_false_iff.mpr locked, Bool.false_or]

/-- The locks that are inspected follow those that have been. -/
theorem whole_inspect (inspected : List UInt8) (left room : Nat) :
    (code sizeT userKeys).whole storage (.inspect inspected left room) =
      (storage, infoAnswer (inspected ++ (List.range left).map fun index : Nat =>
        if storage.sectorLockState ((inspected.length + index : Nat) : Int) then 1 else 0)
        room) := by
  induction left generalizing inspected with
  | zero =>
    rw [whole_ends (code sizeT userKeys) storage storage (.inspect inspected 0 room) _ rfl,
      List.range_zero, List.map_nil, List.append_nil]
  | succ left inductionHypothesis =>
    rw [whole_goes_on (code sizeT userKeys) storage storage (.inspect inspected (left + 1) room) _
      rfl, inductionHypothesis, List.range_succ_eq_map, List.map_cons, List.map_map,
      List.append_assoc]
    simp only [List.length_append, List.length_singleton, List.singleton_append, Nat.add_zero,
      Function.comp_def, Nat.succ_eq_add_one, Nat.add_assoc, Nat.add_comm 1]

/-- A section executed whole is the handler at once. -/
theorem whole_handles (call : MutexCall userKeys) (keys : storage.userKeys = userKeys) :
    (code sizeT userKeys).whole storage ((code sizeT userKeys).start call) =
      handle sizeT storage call := by
  cases call with
  | read length room offset inside =>
    have served := whole_copy_out userKeys sizeT storage []
      (min room (clampedLength sizeT offset length)) (clampedLength sizeT offset length) room offset
    simp only [code] at served ⊢
    rw [served]
    simp only [handle, storageRead, if_neg (Nat.not_le_of_lt inside), Bool.false_eq_true, if_false,
      copyToUser, load_length, take_load, List.nil_append, List.length_nil, Nat.add_zero,
      readAnswer]
    split <;> rfl
  | write source length offset inside =>
    have stored := whole_scan userKeys sizeT storage
      (scannedSectors sizeT offset (clampedLength sizeT offset length)) source
      (clampedLength sizeT offset length) offset
    simp only [code] at stored ⊢
    rw [stored]
    simp only [handle, storageWrite, if_neg (Nat.not_le_of_lt inside), Bool.false_eq_true, if_false,
      copyFromUser, writeAnswer]
    split
    · rfl
    · by_cases complete : source.uncopied (clampedLength sizeT offset length) = 0
      · simp only [complete, ne_eq, not_true_eq_false, if_false]
      · simp only [complete, ne_eq, not_false_eq_true, if_true]
  | lockSector arg sector names =>
    have inside : ¬ (sector < 0 ∨ storageNumSectors ≤ sector) := by
      have bounds := names.2
      omega
    rw [whole_ends (code sizeT userKeys) storage _
      ((code sizeT userKeys).start (.lockSector arg sector names)) _ rfl]
    simp only [handle, StorageDevice.lockSector, withSector, names.1, if_neg inside]
  | unlockSector arg complete lower upper known =>
    rw [← keys] at known
    rw [whole_ends (code sizeT userKeys) storage _
      ((code sizeT userKeys).start (.unlockSector arg complete lower upper _)) _ rfl]
    simp only [handle, unlock_sector_admitted storage arg ⟨complete, lower, upper, known⟩]
  | getLockInfo room =>
    have inspected := whole_inspect userKeys sizeT storage [] 8 room
    simp only [code] at inspected ⊢
    rw [inspected]
    simp only [handle, StorageDevice.getLockInfo, List.nil_append, List.length_nil, Nat.zero_add]
    rfl
  | eraseSector arg sector names =>
    have inside : ¬ (sector < 0 ∨ storageNumSectors ≤ sector) := by
      have bounds := names.2
      omega
    simp only [handle, StorageDevice.eraseSector, withSector, names.1, if_neg inside]
    by_cases locked : storage.sectorLockState sector = true
    · rw [whole_ends (code sizeT userKeys) storage storage
        ((code sizeT userKeys).start (.eraseSector arg sector names)) (.command ⟨-eperm, []⟩)
        (if_pos locked)]
      simp only [if_pos locked]
    · rw [whole_goes_on (code sizeT userKeys) storage storage
        ((code sizeT userKeys).start (.eraseSector arg sector names)) _ (if_neg locked),
        whole_copy_in]
      simp only [if_neg locked, fill]

end Whole

/-- No handler changes the keys. -/
theorem handle_keys (sizeT : Nat) (storage : Storage) (call : MutexCall userKeys) :
    (handle sizeT storage call).1.userKeys = storage.userKeys := by
  cases call with
  | read | getLockInfo => rfl
  | write source length offset inside =>
    by_cases accepted : WriteAccepted sizeT storage length offset false
    · simp only [handle, storage_write_accepted sizeT storage source length offset false accepted]
    · simp only [handle, storage_write_refused sizeT storage source length offset false accepted]
  | lockSector arg sector names =>
    simp only [handle, StorageDevice.lockSector, withSector, names.1]
    split <;> rfl
  | unlockSector arg complete lower upper known =>
    simp only [handle, StorageDevice.unlockSector]
    split
    · rfl
    · split
      · rfl
      · split <;> rfl
  | eraseSector arg sector names =>
    simp only [handle, StorageDevice.eraseSector, withSector, names.1]
    split
    · rfl
    · split <;> rfl

universe u
variable {θ : Type u}

/-- A thread's call of a handler. -/
def handleCall (sizeT : Nat) (storage : Storage) (entered : θ × MutexCall userKeys) :
    Storage × (θ × Answer) :=
  let (storage, answer) := handle sizeT storage entered.2
  (storage, (entered.1, answer))

/-- For every interleaving of the accesses of any threads: the calls are answered, and the
running one will be, as the handlers answer them at once in the order in which they take the
mutex; whenever the mutex is free, the state is the one that the handlers leave; and every
call can still return. -/
theorem interleaved_storage_is_serial [DecidableEq θ] (sizeT : Nat) (storage : Storage)
    (actions : List (Action (MutexCall storage.userKeys) θ)) :
    let sections := code sizeT storage.userKeys
    let final := after (LockedSections.step sections) (fresh storage) actions
    let entered := entries sections storage actions
    answers sections storage actions ++ (settled sections final).2 =
        replies (handleCall sizeT) storage entered ∧
      (final.holder = none →
        answers sections storage actions = replies (handleCall sizeT) storage entered ∧
          final.shared = after (handleCall sizeT) storage entered) ∧
      ∀ thread, ∃ more, (after (LockedSections.step sections) final more).stage thread = .idle := by
  intro sections final entered
  have alike : ∀ (state other : Storage) (entered : θ × MutexCall storage.userKeys),
      state = other ∧ state.userKeys = storage.userKeys →
        (serialStep sections state entered).2 = (handleCall sizeT other entered).2 ∧
          (serialStep sections state entered).1 = (handleCall sizeT other entered).1 ∧
          (serialStep sections state entered).1.userKeys = storage.userKeys := by
    rintro state _ entered ⟨rfl, keys⟩
    have whole := whole_handles _ sizeT state entered.2 keys
    simp only [serialStep, sections, whole, handleCall]
    exact ⟨trivial, trivial, (handle_keys sizeT state entered.2).trans keys⟩
  obtain ⟨answered, settles⟩ := run_refines sections (handleCall sizeT) _ alike storage storage
    ⟨rfl, rfl⟩ actions
  refine ⟨answered, fun free => ?_, can_return sections final (run_exclusive sections _ actions)⟩
  obtain ⟨told, same, _⟩ := settles free
  exact ⟨told, same⟩

end LddExamples.StorageSections
