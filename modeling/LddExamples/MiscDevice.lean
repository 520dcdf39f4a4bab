import LddExamples.KernelInterface
import LddExamples.Runs
import LddExamples.StringBuffers

/-!
# The misc device

`001_driver_misc/misc.c`: one buffer of 256 bytes that holds a string. A write replaces its
bytes and ends the string after them; a read goes through the string with the kernel's
helper for flat buffers. Both check the range of the user addresses first, which is a part
of the call. The device has no seek; a file is opened at position zero, and positioned calls
pass their own. Registration and the log are left out.
-/

namespace LddExamples.MiscDevice

open Runs ByteWindows KernelInterface StringBuffers

/-- The size of `kernel_buffer`. -/
def kernelBufferSize : Nat := 256

/-- The bytes that `strlen` counts. -/
def strlen (kernelBuffer : Memory) : Nat := (stringIn kernelBufferSize kernelBuffer).length

/-- A read copies from the position what is left of the string in the buffer. Memory that
the user may not address is refused before that. -/
def miscRead (kernelBuffer : Memory) (count room ppos : Nat) (accessOk : Bool) : Served :=
  if !accessOk then ⟨-efault, ppos, []⟩
  else simpleReadFromBuffer kernelBuffer (strlen kernelBuffer) ppos count room

/-- The buffer and the return value that a write leaves. -/
def miscWrite (kernelBuffer : Memory) (source : UserSource) (count : Nat) (accessOk : Bool) :
    Memory × Int :=
  if kernelBufferSize - 1 < count then (kernelBuffer, -einval)
  else if !accessOk then (kernelBuffer, -efault)
  else
    let (kernelBuffer, missing) := copyFromUser kernelBuffer 0 source count
    if missing ≠ 0 then (kernelBuffer, -efault) else (store kernelBuffer count [0], count)

/-- The buffer and the positions of the open files. -/
structure System where
  kernelBuffer : Memory
  positions : Positions

/-- The calls on open files. -/
inductive Call where
  | openFile (file : Nat)
  | read (file : Nat) (place : Place) (count room : Nat) (accessOk : Bool)
  | write (file : Nat) (place : Place) (count : Nat) (source : UserSource) (accessOk : Bool)

/-- One complete call. A write leaves the position as it is. -/
def step (system : System) : Call → System × Reply
  | .openFile file =>
      ({ system with positions := Function.update system.positions file 0 }, ⟨0, []⟩)
  | .read file place count room accessOk =>
      let offset := place.offset system.positions file
      if loffLimit ≤ offset then (system, ⟨-einval, []⟩)
      else
        let served := miscRead system.kernelBuffer (min count maxRwCount) room offset accessOk
        ({ system with positions := place.commit system.positions file served.offset },
          ⟨served.ret, served.data⟩)
  | .write file place count source accessOk =>
      if loffLimit ≤ place.offset system.positions file then (system, ⟨-einval, []⟩)
      else
        let (kernelBuffer, ret) :=
          miscWrite system.kernelBuffer source (min count maxRwCount) accessOk
        ({ system with kernelBuffer := kernelBuffer }, ⟨ret, []⟩)

/-- The loaded module. -/
def loaded (positions : Positions) : System :=
  ⟨store (fun _ => 0) 0 (textBytes "Hello India\n"), positions⟩

/-- A write that succeeds leaves its bytes, as far as they were asked for, and a terminator. -/
theorem misc_write_success (kernelBuffer : Memory) (source : UserSource) (count : Nat)
    (accessOk : Bool) (success : 0 ≤ (miscWrite kernelBuffer source count accessOk).2) :
    count < kernelBufferSize ∧ source.uncopied count = 0 ∧
      miscWrite kernelBuffer source count accessOk =
        (store (store kernelBuffer 0 (source.landed count)) count [0], (count : Int)) := by
  by_cases long : kernelBufferSize - 1 < count
  · simp [miscWrite, long] at success
  · cases accessOk with
    | false => simp [miscWrite, long] at success
    | true =>
      by_cases complete : source.uncopied count = 0
      · refine ⟨?_, complete, ?_⟩
        · simp only [kernelBufferSize] at long ⊢
          omega
        · simp only [miscWrite, long, copyFromUser, complete, ne_eq, not_true_eq_false,
            Bool.not_true, Bool.false_eq_true, if_false]
      · simp [miscWrite, long, copyFromUser, complete] at success

/-- A read with room for its request is a window read of the string. -/
theorem misc_read_window (kernelBuffer : Memory) (count room ppos : Nat) (roomy : count ≤ room) :
    miscRead kernelBuffer count room ppos true =
      windowRead kernelBuffer (strlen kernelBuffer) ppos count room :=
  simple_read_window kernelBuffer (strlen kernelBuffer) ppos count room roomy

end LddExamples.MiscDevice
