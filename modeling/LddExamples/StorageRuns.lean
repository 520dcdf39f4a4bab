import LddExamples.Runs
import LddExamples.StorageDevice

/-!
# Runs of the storage device

The state is the driver, the mirror and the positions of the open files. A call
is a complete read, write, seek or command, with everything its environment
decides; a length is cut to what the caller of a handler admits. Opening a file
sets its position to zero and does nothing else, so it is a seek. Files are
numbered without a bound.

The frame laws say, for every call at once, which part of the state it can
change: the buffer only at unlocked bytes, a lock from set to clear only in an
unlock request that the keys admit, the mirror only in a mirror request, and the
keys never.
-/

namespace LddExamples.StorageRuns

open ByteWindows KernelInterface StorageMirror StorageDevice

/-- The driver and the positions of the open files. -/
structure System where
  storage : Storage
  positions : Positions

/-- The calls on open files; a seek is the kernel's own. The commands are without a file,
since none looks at one. -/
inductive Call where
  | read (file : Nat) (place : Place) (length room : Nat) (interrupted : Bool)
  | write (file : Nat) (place : Place) (length : Nat) (source : UserSource) (interrupted : Bool)
  | seek (file position : Nat)
  | ioctl (command : Ioctl)

/-- One complete call on a 64-bit kernel. -/
def step (system : System) : Call → System × Reply
  | .read file place length room interrupted =>
      let served := storageRead 64 system.storage (min length maxRwCount) room
        (place.offset system.positions file) interrupted
      ({ system with positions := place.commit system.positions file served.offset },
        ⟨served.ret, served.data⟩)
  | .write file place length source interrupted =>
      let stored := storageWrite 64 system.storage source (min length maxRwCount)
        (place.offset system.positions file) interrupted
      (⟨stored.state, place.commit system.positions file stored.offset⟩, ⟨stored.ret, []⟩)
  | .seek file position =>
      ({ system with positions := Function.update system.positions file position },
        ⟨position, []⟩)
  | .ioctl command =>
      let (storage, reply) := storageIoctl system.storage command
      ({ system with storage := storage }, reply)

/-- The freshly loaded modules, over any memory, with any files. -/
def loaded (userKeys : List (Option (List UInt8))) (memory mirror : Memory) (locks : Int → Bool)
    (positions : Positions) : System :=
  ⟨storageDriverInit userKeys memory mirror locks, positions⟩

/-- The driver loaded over cleared memory with the default keys. -/
def fresh : System := loaded [] (fun _ => 0) (fun _ => 0) (fun _ => false) (fun _ => 0)

/-- A lock request that was accepted for this sector. -/
def LocksSector (event : Runs.Event System Call) (sector : Int) : Prop :=
  ∃ arg, event.call = .ioctl (.lockSector arg) ∧ (event.reply step).ret = 0 ∧
    copyIntFromUser arg = some sector

/-- An unlock request that was accepted for this sector. -/
def UnlocksSector (event : Runs.Event System Call) (sector : Int) : Prop :=
  ∃ arg interrupted, event.call = .ioctl (.unlockSector arg interrupted) ∧
    (event.reply step).ret = 0 ∧ (decodeUnlockRequest (arg.landed 4)).sector = sector

/-- The sector and the key of an unlock request that reaches the wait for the
mutex. -/
def UnlockAdmitted (storage : Storage) (arg : UserSource) : Prop :=
  arg.uncopied 4 = 0 ∧ 0 ≤ (decodeUnlockRequest (arg.landed 4)).sector ∧
    (decodeUnlockRequest (arg.landed 4)).sector < storageNumSectors ∧
    keyAccepted storage.userKeys (decodeUnlockRequest (arg.landed 4)).key = true

/-- An unlock request that is not admitted, or whose wait a signal ends, fails
and changes nothing. -/
theorem unlock_sector_refused (storage : Storage) (arg : UserSource) (interrupted : Bool)
    (refused : ¬ (UnlockAdmitted storage arg ∧ interrupted = false)) :
    (unlockSector storage arg interrupted).1 = storage ∧
      (unlockSector storage arg interrupted).2.ret < 0 := by
  unfold unlockSector
  by_cases missing : arg.uncopied 4 ≠ 0
  · simp [missing]
  · by_cases outside : (decodeUnlockRequest (arg.landed 4)).sector < 0 ∨
        storageNumSectors ≤ (decodeUnlockRequest (arg.landed 4)).sector
    · simp [missing, outside]
    · by_cases unknownKey : keyAccepted storage.userKeys
          (decodeUnlockRequest (arg.landed 4)).key = false
      · simp [missing, outside, unknownKey]
      · cases interrupted with
        | true => simp [missing, outside, unknownKey]
        | false =>
          refine absurd ⟨⟨?_, ?_, ?_, ?_⟩, rfl⟩ refused
          · exact not_not.mp missing
          · omega
          · omega
          · simpa using unknownKey

/-- An admitted, uninterrupted unlock request clears the lock of its sector. -/
theorem unlock_sector_admitted (storage : Storage) (arg : UserSource)
    (admitted : UnlockAdmitted storage arg) :
    unlockSector storage arg false =
      ({ storage with
          sectorLockState := Function.update storage.sectorLockState
            (decodeUnlockRequest (arg.landed 4)).sector false }, ⟨0, []⟩) := by
  obtain ⟨complete, lower, upper, known⟩ := admitted
  have inside : ¬ ((decodeUnlockRequest (arg.landed 4)).sector < 0 ∨
      storageNumSectors ≤ (decodeUnlockRequest (arg.landed 4)).sector) := by omega
  simp only [unlockSector, complete, ne_eq, not_true_eq_false, if_false, if_neg inside, known,
    Bool.true_eq_false, Bool.false_eq_true]

/-- What each call can do to the driver and the mirror: nothing, or the one
change that its kind makes, with the checks it has passed. -/
inductive Effect (system : System) : Call → Storage → Prop where
  | unchanged (call : Call) : Effect system call system.storage
  | written (file : Nat) (place : Place) (length : Nat) (source : UserSource) (interrupted : Bool)
      (accepted : WriteAccepted 64 system.storage (min length maxRwCount)
        (place.offset system.positions file) interrupted) :
      Effect system (.write file place length source interrupted)
        { system.storage with
            storageBuffer := store system.storage.storageBuffer (place.offset system.positions file)
              (source.landed (clampedLength 64 (place.offset system.positions file)
                (min length maxRwCount))) }
  | locked (arg : UserSource) (sector : Nat) (copied : copyIntFromUser arg = some (sector : Int))
      (inside : sector < 8) :
      Effect system (.ioctl (.lockSector arg))
        { system.storage with
            sectorLockState := Function.update system.storage.sectorLockState sector true }
  | unlocked (arg : UserSource) (admitted : UnlockAdmitted system.storage arg) :
      Effect system (.ioctl (.unlockSector arg false))
        { system.storage with
            sectorLockState := Function.update system.storage.sectorLockState
              (decodeUnlockRequest (arg.landed 4)).sector false }
  | erased (arg : UserSource) (sector : Nat) (copied : copyIntFromUser arg = some (sector : Int))
      (inside : sector < 8) (clear : system.storage.sectorLockState sector = false) :
      Effect system (.ioctl (.eraseSector arg))
        { system.storage with
            storageBuffer := fill system.storage.storageBuffer (sector * storageSectorSize)
              storageSectorSize 0 }
  | mirrored (arg : UserSource) (interrupted : Bool) (sector : Nat)
      (copied : copyIntFromUser arg = some (sector : Int)) (inside : sector < 8) :
      Effect system (.ioctl (.mirrorSector arg interrupted))
        { system.storage with
            mirrorBuffer := mirrorSector system.storage.mirrorBuffer sector
              (sectorBytes system.storage.storageBuffer sector) interrupted }

/-- Every call has one of these effects. -/
theorem step_effect (system : System) (call : Call) :
    Effect system call (step system call).1.storage := by
  cases call with
  | read file place length room interrupted => exact .unchanged _
  | seek file position => exact .unchanged _
  | write file place length source interrupted =>
    by_cases accepted : WriteAccepted 64 system.storage (min length maxRwCount)
        (place.offset system.positions file) interrupted
    · simp only [step, storage_write_accepted _ _ _ _ _ _ accepted]
      exact .written file place length source interrupted accepted
    · simp only [step, (storage_write_refused _ _ source _ _ _ accepted).1]
      exact .unchanged _
  | ioctl command =>
    cases command with
    | lockSector arg =>
      change Effect system _ (lockSector system.storage arg).1
      simp only [lockSector]
      rcases with_sector_cases system.storage arg _ with
        ⟨same, _⟩ | ⟨sector, copied, inside, locks⟩
      · rw [same]
        exact .unchanged _
      · rw [locks]
        exact .locked arg sector copied inside
    | unlockSector arg interrupted =>
      simp only [step, storageIoctl]
      by_cases admitted : UnlockAdmitted system.storage arg ∧ interrupted = false
      · obtain ⟨admitted, rfl⟩ := admitted
        rw [unlock_sector_admitted system.storage arg admitted]
        exact .unlocked arg admitted
      · rw [(unlock_sector_refused system.storage arg interrupted admitted).1]
        exact .unchanged _
    | getLockInfo room => exact .unchanged _
    | eraseSector arg =>
      simp only [step, storageIoctl]
      rcases erase_sector_cases system.storage arg with
        ⟨same, _⟩ | ⟨sector, copied, inside, clear, erases⟩
      · rw [same]
        exact .unchanged _
      · rw [erases]
        exact .erased arg sector copied inside clear
    | mirrorSector arg interrupted =>
      simp only [step, storageIoctl]
      rcases mirror_command_cases system.storage arg interrupted with
        ⟨same, _⟩ | ⟨sector, copied, inside, mirrors⟩
      · rw [same]
        exact .unchanged _
      · rw [mirrors]
        exact .mirrored arg interrupted sector copied inside
    | backupToFile arg openError interrupted kernelWrite => exact .unchanged _
    | unknown => exact .unchanged _

/-- No call changes a byte of a locked sector.

An accepted write has scanned the sector of every byte that its copy can reach,
wherever the copy stops; an accepted erase has found its sector unlocked. -/
theorem locked_byte_kept (system : System) (call : Call) (index : Nat)
    (locked : system.storage.sectorLockState ((index / storageSectorSize : Nat) : Int) = true) :
    (step system call).1.storage.storageBuffer index = system.storage.storageBuffer index := by
  have effect := step_effect system call
  generalize (step system call).1.storage = next at effect ⊢
  cases effect with
  | written file place length source interrupted accepted =>
    apply store_outside
    by_contra covered
    have reach := source.landed_length_le
      (clampedLength 64 (place.offset system.positions file) (min length maxRwCount))
    have unlocked := accepted_unlocked system.storage (min length maxRwCount)
      (place.offset system.positions file) interrupted (Nat.min_le_right _ _) accepted index
      (by omega) (by omega)
    rw [unlocked] at locked
    contradiction
  | erased arg sector copied inside clear =>
    apply fill_outside
    by_contra covered
    have same : index / storageSectorSize = sector := by
      simp only [storageSectorSize] at covered ⊢
      omega
    rw [same, clear] at locked
    contradiction
  | unchanged | locked | unlocked | mirrored => rfl

/-- A call that clears a lock is an admitted unlock request for its sector. -/
theorem unlocked_by_request (system : System) (call : Call) (sector : Int)
    (locked : system.storage.sectorLockState sector = true)
    (cleared : (step system call).1.storage.sectorLockState sector = false) :
    ∃ arg, call = .ioctl (.unlockSector arg false) ∧ UnlockAdmitted system.storage arg ∧
      (decodeUnlockRequest (arg.landed 4)).sector = sector := by
  have effect := step_effect system call
  generalize (step system call).1.storage = next at effect cleared
  cases effect with
  | locked arg other copied inside =>
    simp only [Function.update_apply] at cleared
    split at cleared
    · contradiction
    · exact absurd (locked.symm.trans cleared) (by decide)
  | unlocked arg admitted =>
    simp only [Function.update_apply] at cleared
    split at cleared
    · rename_i same
      exact ⟨arg, rfl, admitted, same.symm⟩
    · exact absurd (locked.symm.trans cleared) (by decide)
  | unchanged | written | erased | mirrored => exact absurd (locked.symm.trans cleared) (by decide)

/-- No call changes the configured keys. -/
theorem keys_kept (system : System) (call : Call) :
    (step system call).1.storage.userKeys = system.storage.userKeys := by
  have effect := step_effect system call
  generalize (step system call).1.storage = next at effect ⊢
  cases effect <;> rfl

end LddExamples.StorageRuns
