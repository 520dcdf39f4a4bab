import LddExamples.MessageReads
import LddExamples.MiscDevice
import LddExamples.StringStores

/-!
# The ends of the string buffers

The multi-reader device and the misc device both keep a string in 256 bytes, and look for
its end without a bound. Neither lets a copy reach the last byte, and both load with a zero
there; so every string that a read finds ends in the buffer.
-/

namespace LddExamples.TerminatedBuffers

open ByteWindows KernelInterface StoreLogs StringStores

section MultiReader

open MultiReaderDevice MessageReads

/-- The stores of a call. -/
def messageStores (_ : MessageReads.System) : MessageReads.Call → List Chunk
  | .wait _ _ => []
  | .finish _ _ => []
  | .write source len => stringStores source (if 255 < len then 255 else len)

/-- Every call makes its stores, and nothing else. -/
theorem message_step_log (system : MessageReads.System) (call : MessageReads.Call) :
    (MessageReads.step system call).1.device.data =
      storeAll system.device.data (messageStores system call) := by
  cases call with
  | wait process signal =>
    simp only [MessageReads.step]
    split
    · rfl
    · split <;> rfl
  | finish process room =>
    simp only [MessageReads.step]
    split
    · exact read_rest_data system.device room
    · rfl
  | write source len => exact my_write_log system.device source len

/-- They spare the last byte. -/
theorem message_stores_spare (system : MessageReads.System) (call : MessageReads.Call) :
    ∀ chunk ∈ messageStores system call, SparesLast 255 chunk := by
  cases call with
  | wait | finish => exact fun chunk member => absurd member List.not_mem_nil
  | write source len =>
    apply string_stores_spare
    split <;> omega

end MultiReader

section Misc

open MiscDevice

/-- The stores of a write that gets to the handler. -/
def miscWriteStores (source : UserSource) (count : Nat) (accessOk : Bool) : List Chunk :=
  if kernelBufferSize - 1 < count then []
  else if !accessOk then []
  else stringStores source count

/-- The stores of a call. -/
def miscStores (system : MiscDevice.System) : MiscDevice.Call → List Chunk
  | .openFile _ => []
  | .read _ _ _ _ _ => []
  | .write file place count source accessOk =>
      if loffLimit ≤ place.offset system.positions file then []
      else miscWriteStores source (min count maxRwCount) accessOk

/-- A write makes these stores. -/
theorem misc_write_log (kernelBuffer : Memory) (source : UserSource) (count : Nat)
    (accessOk : Bool) :
    (miscWrite kernelBuffer source count accessOk).1 =
      storeAll kernelBuffer (miscWriteStores source count accessOk) := by
  simp only [miscWrite, miscWriteStores]
  split
  · rfl
  · split
    · rfl
    · rw [string_store_all]
      split <;> rfl

/-- Every call makes its stores, and nothing else. -/
theorem misc_step_log (system : MiscDevice.System) (call : MiscDevice.Call) :
    (MiscDevice.step system call).1.kernelBuffer =
      storeAll system.kernelBuffer (miscStores system call) := by
  cases call with
  | openFile file => rfl
  | read file place count room accessOk =>
    simp only [MiscDevice.step]
    split <;> rfl
  | write file place count source accessOk =>
    simp only [MiscDevice.step, miscStores]
    split
    · rfl
    · exact misc_write_log system.kernelBuffer source _ accessOk

/-- They spare the last byte. -/
theorem misc_stores_spare (system : MiscDevice.System) (call : MiscDevice.Call) :
    ∀ chunk ∈ miscStores system call, SparesLast 255 chunk := by
  have none (chunk : Chunk) (member : chunk ∈ ([] : List Chunk)) : SparesLast 255 chunk :=
    absurd member List.not_mem_nil
  cases call with
  | openFile | read => exact none
  | write file place count source accessOk =>
    simp only [miscStores, miscWriteStores]
    split
    · exact none
    · split
      · exact none
      · split
        · exact none
        · rename_i short _
          apply string_stores_spare
          simp only [kernelBufferSize] at short
          omega

end Misc

/-- In every run of either device, the string ends in its buffer of 256 bytes, in every
state and between the stores of every write, and every write stores only there. -/
theorem buffers_stay_terminated :
    (∀ calls, StaysInside MessageReads.step 255 (fun system => system.device.data) messageStores
      MessageReads.start calls) ∧
      ∀ positions calls, StaysInside MiscDevice.step 255 (fun system => system.kernelBuffer)
        miscStores (MiscDevice.loaded positions) calls := by
  constructor
  · exact fun calls => run_stays_inside _ _ _ _ message_step_log message_stores_spare _ calls rfl
  · exact fun positions calls =>
      run_stays_inside _ _ _ _ misc_step_log misc_stores_spare _ calls rfl

end LddExamples.TerminatedBuffers
