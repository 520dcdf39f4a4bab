import LddExamples.StorageDevice
import LddExamples.StringBuffers

/-!
# The path of a backup

The path is a string of the caller, but the command copies 256 bytes for it, whatever they
are. That is too much for a string that ends shortly before memory that cannot be read: the
copy fails, although nothing behind the string matters. And it is not enough for a string
that does not end: the copy succeeds, and the callee goes on reading behind its buffer.
-/

namespace LddExamples.BackupPaths

open KernelInterface StorageMirror StorageDevice StringBuffers

/-- User memory: the byte at each address that can be read. -/
abbrev UserMemory := Nat → Option UInt8

/-- The bytes from an address on, up to the requested number and before the first that
cannot be read. -/
def fetched (memory : UserMemory) (address : Nat) : Nat → List UInt8
  | 0 => []
  | count + 1 =>
      match memory address with
      | none => []
      | some byte => byte :: fetched memory (address + 1) count

/-- The size of `path`. -/
def pathSize : Nat := 256

/-- What the copy meets at the address, which may clear what it does not copy. -/
def sourceAt (memory : UserMemory) (arg : Nat) (padded : Bool) : UserSource :=
  ⟨fetched memory arg pathSize, padded⟩

/-- The buffer with which `vblock_backup_to_file` is called, if it is. -/
def passedPath (arg : UserSource) : Option (List UInt8) :=
  if arg.uncopied pathSize ≠ 0 then none else some (arg.landed pathSize)

/-- The command fails without a call, or returns what the call of this buffer does. -/
theorem backup_to_file_passes (storage : Storage) (arg : UserSource) (openError : Option Errno)
    (interrupted : Bool) (kernelWrite : KernelWrite) :
    backupToFile storage arg openError interrupted kernelWrite =
      match passedPath arg with
      | none => ⟨-efault, []⟩
      | some path =>
          let backup := vblockBackupToFile storage.mirrorBuffer path openError interrupted
            kernelWrite
          ⟨backup.ret, backup.file.getD []⟩ := by
  by_cases missing : arg.uncopied pathSize ≠ 0
  · rw [show passedPath arg = none from if_pos missing]
    exact if_pos missing
  · rw [show passedPath arg = some (arg.landed pathSize) from if_neg missing]
    exact if_neg missing

/-- A path of fewer than 256 bytes and its terminator can be read at the address. -/
def PathAt (memory : UserMemory) (arg : Nat) (path : List UInt8) : Prop :=
  path.length < pathSize ∧ (0 : UInt8) ∉ path ∧
    fetched memory arg (path.length + 1) = path ++ [0]

/-- The argument is taken as a string: a path is passed as it is, in a buffer in which it
ends; and without one, the command fails and nothing is called. -/
def TakesString (memory : UserMemory) (arg : Nat) (padded : Bool) : Prop :=
  (∀ path, PathAt memory arg path →
    ∃ buffer, passedPath (sourceAt memory arg padded) = some buffer ∧
      buffer.length = pathSize ∧ (0 : UInt8) ∈ buffer ∧ beforeZero buffer = path) ∧
  ((¬ ∃ path, PathAt memory arg path) →
    passedPath (sourceAt memory arg padded) = none ∧
      ∀ storage openError interrupted kernelWrite,
        (backupToFile storage (sourceAt memory arg padded) openError interrupted
          kernelWrite).ret < 0)

/-- A shorter request fetches the first of the bytes. -/
theorem take_fetched (memory : UserMemory) (address count taken : Nat) :
    (fetched memory address count).take taken = fetched memory address (min taken count) := by
  induction count generalizing address taken with
  | zero => rw [Nat.min_zero, fetched, List.take_nil]
  | succ count inductionHypothesis =>
    cases taken with
    | zero => rw [Nat.zero_min, List.take_zero, fetched]
    | succ taken =>
      rw [Nat.succ_min_succ, fetched, fetched]
      cases memory address with
      | none => rfl
      | some byte => exact congrArg (byte :: ·) (inductionHypothesis (address + 1) taken)

/-- No more bytes are fetched than requested. -/
theorem fetched_length_le (memory : UserMemory) (address count : Nat) :
    (fetched memory address count).length ≤ count := by
  have taken := congrArg List.length (take_fetched memory address count count)
  rw [Nat.min_self, List.length_take] at taken
  omega

/-- A path at the address is what the first fetched bytes are before their first zero. -/
theorem path_at_iff (memory : UserMemory) (arg : Nat) (path : List UInt8) :
    PathAt memory arg path ↔
      (0 : UInt8) ∈ fetched memory arg pathSize ∧
        beforeZero (fetched memory arg pathSize) = path := by
  constructor
  · rintro ⟨short, nonzero, read⟩
    have start := take_fetched memory arg pathSize (path.length + 1)
    rw [Nat.min_eq_left short, read] at start
    have whole := List.take_append_drop (path.length + 1) (fetched memory arg pathSize)
    rw [start, List.append_assoc, List.singleton_append] at whole
    rw [← whole]
    refine ⟨List.mem_append_right _ List.mem_cons_self, ?_⟩
    rw [before_zero_terminated, (before_zero_eq_self_iff path).mpr nonzero]
  · rintro ⟨terminated, rfl⟩
    obtain ⟨shorter, start⟩ := take_terminated _ terminated
    have fits := fetched_length_le memory arg pathSize
    rw [take_fetched, Nat.min_eq_left (by omega)] at start
    exact ⟨by omega, before_zero_nonzero _, start⟩

/-- The copy succeeds exactly if all that it asks for can be read. -/
theorem passed_path_some (memory : UserMemory) (arg : Nat) (padded : Bool)
    (complete : (fetched memory arg pathSize).length = pathSize) :
    passedPath (sourceAt memory arg padded) = some (fetched memory arg pathSize) := by
  have copied : (sourceAt memory arg padded).uncopied pathSize = 0 := by
    simp only [sourceAt, UserSource.uncopied]
    omega
  have landed := (sourceAt memory arg padded).landed_complete pathSize copied
  rw [passedPath, copied, landed]
  simp only [sourceAt, ne_eq, not_true_eq_false, if_false, Option.some_inj]
  exact List.take_of_length_le (Nat.le_of_eq complete)

/-- Otherwise nothing is called. -/
theorem passed_path_none (memory : UserMemory) (arg : Nat) (padded : Bool)
    (missing : (fetched memory arg pathSize).length ≠ pathSize) :
    passedPath (sourceAt memory arg padded) = none := by
  have fits := fetched_length_le memory arg pathSize
  apply if_pos
  simp only [sourceAt, UserSource.uncopied]
  omega

/-- The argument is taken as a string exactly if the bytes that can be read, of the 256 from
its address, contain a zero if and only if they are all 256. -/
theorem takes_string_iff (memory : UserMemory) (arg : Nat) (padded : Bool) :
    TakesString memory arg padded ↔
      ((0 : UInt8) ∈ fetched memory arg pathSize ↔
        (fetched memory arg pathSize).length = pathSize) := by
  simp only [TakesString, path_at_iff]
  by_cases complete : (fetched memory arg pathSize).length = pathSize
  · have passed := passed_path_some memory arg padded complete
    rw [passed]
    by_cases terminated : (0 : UInt8) ∈ fetched memory arg pathSize
    · refine iff_of_true ⟨?_, fun unreadable => ?_⟩ (iff_of_true terminated complete)
      · rintro path ⟨_, same⟩
        exact ⟨_, rfl, complete, terminated, same⟩
      · exact absurd ⟨_, terminated, rfl⟩ unreadable
    · refine iff_of_false (fun takes => ?_) (fun same => terminated (same.mpr complete))
      exact Option.some_ne_none _ (takes.2 fun ⟨_, zero, _⟩ => terminated zero).1
  · have passed := passed_path_none memory arg padded complete
    by_cases terminated : (0 : UInt8) ∈ fetched memory arg pathSize
    · refine iff_of_false (fun takes => ?_) (fun same => complete (same.mp terminated))
      obtain ⟨buffer, called, _⟩ := takes.1 _ ⟨terminated, rfl⟩
      exact Option.some_ne_none _ (called.symm.trans passed)
    · refine iff_of_true ⟨?_, fun _ => ⟨passed, ?_⟩⟩ (iff_of_false terminated complete)
      · exact fun path read => absurd read.1 terminated
      · intro storage openError interrupted kernelWrite
        rw [backup_to_file_passes, passed]
        exact show (-efault : Int) < 0 by decide

/-- The buffer of the bundled program: 64 bytes with the path and zeros behind it. -/
def callerBuffer : List UInt8 :=
  textBytes "./storage_backup.bin" ++ List.replicate 44 0

/-- With nothing behind the buffer, the command fails although the path can be read. With
256 bytes that are not zero, it calls with a buffer in which no string ends. -/
theorem path_not_taken :
    (PathAt (fun address => callerBuffer[address]?) 0 (textBytes "./storage_backup.bin") ∧
        passedPath (sourceAt (fun address => callerBuffer[address]?) 0 false) = none ∧
        ¬ TakesString (fun address => callerBuffer[address]?) 0 false) ∧
      passedPath (sourceAt (fun _ => some 0x61) 0 false) = some (List.replicate 256 0x61) ∧
        ¬ TakesString (fun _ => some 0x61) 0 false := by
  have path : PathAt (fun address => callerBuffer[address]?) 0
      (textBytes "./storage_backup.bin") := by
    unfold PathAt
    decide +kernel
  have uncalled : passedPath (sourceAt (fun address => callerBuffer[address]?) 0 false) = none := by
    decide +kernel
  have called : passedPath (sourceAt (fun _ => some 0x61) 0 false) =
      some (List.replicate 256 0x61) := by
    decide +kernel
  refine ⟨⟨path, uncalled, fun takes => ?_⟩, called, fun takes => ?_⟩
  · obtain ⟨buffer, passed, _⟩ := takes.1 _ path
    exact Option.some_ne_none _ (passed.symm.trans uncalled)
  · have none : ¬ ∃ path, PathAt (fun _ => some 0x61) 0 path := by
      rintro ⟨path, read⟩
      have zero := ((path_at_iff _ _ _).mp read).1
      revert zero
      decide +kernel
    exact Option.some_ne_none _ (called.symm.trans (takes.2 none).1)

end LddExamples.BackupPaths
