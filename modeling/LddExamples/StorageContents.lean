import LddExamples.StorageRuns

/-!
# The storage device as an array of 4096 bytes

The array that the device stands for has no state of its own here: its byte at a
position is the one that the most recent successful write or erase put there, or
zero. When every user copy is complete or transfers nothing, the buffer is that
array after every run, and a successful read returns the array's bytes.

Refused calls, failed copies, locks, mirrors and seeks put nothing.
-/

namespace LddExamples.StorageContents

open Runs ByteWindows KernelInterface StorageDevice StorageRuns

/-- What a call puts at a position: a successful write the byte of its source, a
successful erase zero. A write covers as many positions as it returned. -/
def put (event : Event System Call) (index : Nat) : Option UInt8 :=
  match event.call with
  | .write file place _ source _ =>
      let offset := place.offset event.before.positions file
      let ret := (event.reply step).ret
      if 0 ≤ ret ∧ offset ≤ index ∧ index < offset + ret.toNat then source.bytes[index - offset]?
      else none
  | .ioctl (.eraseSector arg) =>
      if (event.reply step).ret = 0 ∧
          copyIntFromUser arg = some ((index / storageSectorSize : Nat) : Int) then some 0
      else none
  | _ => none

/-- The copy of a write transfers everything the driver asks for, or nothing. A copy that
fetches no byte but clears its destination, as some kernels do after a fault, has stored
zeros and is not nothing. -/
def CopiesWhole (event : Event System Call) : Prop :=
  match event.call with
  | .write file place length source _ =>
      source.Whole (clampedLength 64 (place.offset event.before.positions file)
        (min length maxRwCount))
  | _ => True

/-- A write with a whole copy changes the buffer exactly where it puts a byte.

A refused write and an empty copy change and put nothing. A complete copy of an
accepted write returns the clamped length and stores that many source bytes. -/
theorem write_puts (system : System) (file : Nat) (place : Place) (length : Nat)
    (source : UserSource) (interrupted : Bool) (index : Nat)
    (whole : CopiesWhole ⟨system, .write file place length source interrupted⟩) :
    (step system (.write file place length source interrupted)).1.storage.storageBuffer index =
      (put ⟨system, .write file place length source interrupted⟩ index).getD
        (system.storage.storageBuffer index) := by
  by_cases accepted : WriteAccepted 64 system.storage (min length maxRwCount)
      (place.offset system.positions file) interrupted
  · simp only [put, Event.reply, CopiesWhole, step,
      storage_write_accepted _ _ source _ _ _ accepted] at whole ⊢
    generalize clampedLength 64 (place.offset system.positions file) (min length maxRwCount) =
      count at whole ⊢
    generalize place.offset system.positions file = offset at whole ⊢
    by_cases complete : source.uncopied count = 0
    · have landed := source.landed_complete count complete
      have size := source.landed_length_complete count complete
      simp only [if_pos complete, Int.toNat_natCast]
      by_cases covered : offset ≤ index ∧ index < offset + count
      · obtain ⟨distance, rfl⟩ := Nat.exists_eq_add_of_le covered.1
        have inside : distance < (source.landed count).length := by omega
        have fetched : distance < source.bytes.length := by
          unfold UserSource.uncopied at complete
          omega
        rw [store_inside _ _ _ distance inside, if_pos ⟨Int.natCast_nonneg count, covered⟩,
          Nat.add_sub_cancel_left, List.getElem?_eq_getElem fetched, Option.getD_some]
        simp only [landed, List.getElem_take]
      · rw [store_outside _ _ _ index (by omega), if_neg (fun inside => covered inside.2),
          Option.getD_none]
    · have nothing : source.landed count = [] := whole.resolve_left complete
      simp only [nothing, store_nil, if_neg complete, efault]
      rfl
  · obtain ⟨same, _, failed⟩ := storage_write_refused 64 system.storage source _ _ _ accepted
    simp only [put, Event.reply, step, same]
    rw [if_neg (fun covered => absurd covered.1 (Int.not_le_of_gt failed)), Option.getD_none]

/-- An erase changes the buffer exactly where it puts a zero. -/
theorem erase_puts (system : System) (arg : UserSource) (index : Nat) :
    (step system (.ioctl (.eraseSector arg))).1.storage.storageBuffer index =
      (put ⟨system, .ioctl (.eraseSector arg)⟩ index).getD
        (system.storage.storageBuffer index) := by
  have putErase : put ⟨system, .ioctl (.eraseSector arg)⟩ index =
      if (eraseSector system.storage arg).2.ret = 0 ∧
        copyIntFromUser arg = some ((index / storageSectorSize : Nat) : Int) then some 0
      else none := rfl
  change (eraseSector system.storage arg).1.storageBuffer index = _
  rw [putErase]
  rcases erase_sector_cases system.storage arg with
    ⟨same, failed⟩ | ⟨sector, copied, _, _, erases⟩
  · rw [same, if_neg (fun erased => absurd erased.1 (Int.ne_of_lt failed)), Option.getD_none]
  · rw [erases, copied]
    by_cases covered : sector = index / storageSectorSize
    · rw [if_pos ⟨rfl, by rw [covered]⟩, Option.getD_some]
      apply fill_inside <;> simp only [storageSectorSize] at covered ⊢ <;> omega
    · rw [if_neg (fun erased => covered (Int.ofNat.inj (Option.some.inj erased.2))),
        Option.getD_none]
      apply fill_outside
      simp only [storageSectorSize] at covered ⊢
      omega

/-- Every call with a whole copy changes the buffer exactly where it puts a byte. -/
theorem step_puts (event : Event System Call) (whole : CopiesWhole event) (index : Nat) :
    (event.left step).storage.storageBuffer index =
      (put event index).getD (event.before.storage.storageBuffer index) := by
  obtain ⟨system, call⟩ := event
  cases call with
  | read file place length room interrupted => rfl
  | seek file position => rfl
  | write file place length source interrupted =>
    exact write_puts system file place length source interrupted index whole
  | ioctl command =>
    by_cases erase : ∃ arg, command = .eraseSector arg
    · obtain ⟨arg, rfl⟩ := erase
      exact erase_puts system arg index
    · have notErase : ∀ arg, command ≠ .eraseSector arg := fun arg same => erase ⟨arg, same⟩
      have same : (storageIoctl system.storage command).1.storageBuffer =
          system.storage.storageBuffer := by
        have effect := step_effect system (.ioctl command)
        simp only [step] at effect
        generalize (storageIoctl system.storage command).1 = next at effect ⊢
        cases effect with
        | erased arg sector copied inside clear => exact absurd rfl (notErase arg)
        | unchanged | locked | unlocked | mirrored => rfl
      have nothing : put ⟨system, .ioctl command⟩ index = none := by
        cases command with
        | eraseSector arg => exact absurd rfl (notErase arg)
        | lockSector | unlockSector | getLockInfo | mirrorSector | backupToFile | unknown => rfl
      rw [nothing]
      exact congrFun same index

/-- After a run with whole copies, the buffer is the array. -/
theorem buffer_is_array (userKeys : List (Option (List UInt8))) (memory mirror : Memory)
    (locks : Int → Bool) (positions : Positions) (calls : List Call)
    (whole : ∀ event ∈ trace step (loaded userKeys memory mirror locks positions) calls,
      CopiesWhole event) (index : Nat) (inside : index < storageTotalSize) :
    (after step (loaded userKeys memory mirror locks positions) calls).storage.storageBuffer index =
      (lastPut put (trace step (loaded userKeys memory mirror locks positions) calls) index).getD
        0 := by
  have cleared : (loaded userKeys memory mirror locks positions).storage.storageBuffer index = 0 :=
    fill_inside memory 0 storageTotalSize 0 index (Nat.zero_le _) (by omega)
  have array := view_after step (fun _ => True) CopiesWhole (fun _ => True)
    (fun system : System => system.storage.storageBuffer) put
    (fun _ _ _ => trivial) (fun event key _ whole _ => step_puts event whole key)
    (loaded userKeys memory mirror locks positions) calls trivial whole index trivial
  exact array.trans (congrArg _ cleared)

/-- The device refines the array: after any run whose copies transfer everything
or nothing, a read that succeeds returns the requested number of bytes as far as
the array reaches, each the last one put at its position, and advances the offset
by their number. -/
theorem reads_refine_array (userKeys : List (Option (List UInt8))) (memory mirror : Memory)
    (locks : Int → Bool) (positions : Positions) (calls : List Call)
    (whole : ∀ event ∈ trace step (loaded userKeys memory mirror locks positions) calls,
      CopiesWhole event)
    (file : Nat) (place : Place) (length room : Nat) (interrupted : Bool)
    (success : 0 ≤ (step (after step (loaded userKeys memory mirror locks positions) calls)
      (.read file place length room interrupted)).2.ret) :
    let events := trace step (loaded userKeys memory mirror locks positions) calls
    let system := after step (loaded userKeys memory mirror locks positions) calls
    let offset := place.offset system.positions file
    let count := min length (storageTotalSize - offset)
    let result := step system (.read file place length room interrupted)
    result.2.ret = count ∧
      result.2.data = (List.range count).map (fun index =>
        (lastPut put events (offset + index)).getD 0) ∧
      result.1.positions = place.commit system.positions file (offset + count) := by
  intro events system offset count result
  have array := buffer_is_array userKeys memory mirror locks positions calls whole
  have request : min (min length maxRwCount) (storageTotalSize - offset) = count := by
    simp only [count, storageTotalSize, maxRwCount]
    omega
  have served := storage_read_success system.storage (min length maxRwCount) room offset
    interrupted (Nat.min_le_right _ _) success
  rw [request] at served
  refine ⟨?_, ?_, ?_⟩
  · simp only [result, step, offset] at served ⊢
    rw [served]
  · have data : result.2.data = load system.storage.storageBuffer offset count := by
      simp only [result, step, offset] at served ⊢
      rw [served]
    rw [data]
    apply List.map_congr_left
    intro index member
    have below := List.mem_range.mp member
    exact array (offset + index) (by omega)
  · simp only [result, step, offset] at served ⊢
    rw [served]

/-- On the fresh driver, two bytes written at position 600 through one file are
read back there through another, followed by the zeros that were never written. -/
theorem written_bytes_read_back :
    (step (after step fresh [.write 0 (.fixed 600) 2 (.ofBytes [0x68, 0x69]) false])
      (.read 1 (.fixed 600) 4 4 false)).2.data = [0x68, 0x69, 0, 0] :=
  (reads_refine_array [] (fun _ => 0) (fun _ => 0) (fun _ => false) (fun _ => 0)
    [.write 0 (.fixed 600) 2 (.ofBytes [0x68, 0x69]) false]
    (by
      rintro event (_ | ⟨_, impossible⟩)
      · exact Or.inl (by decide)
      · contradiction)
    1 (.fixed 600) 4 4 false (by decide)).2.1.trans (by decide)

end LddExamples.StorageContents
