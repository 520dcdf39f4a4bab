import LddExamples.ChunkedTransfers
import LddExamples.MessageReads
import LddExamples.MiscDevice

/-!
# Messages in string buffers

The multi-reader device and the misc device take a message as counted bytes and return it
as a string. Both put a zero byte behind what they have stored, so that nothing of an
earlier message comes back; but the string ends at the first zero byte of the message
itself. A message without zero bytes is returned as it was written.

A read of the multi-reader device returns the message whatever other reads do between the
write and it, once its wait has passed. That is certain for the readers that the message is
meant for; later ones wait for the next message. The misc device returns the message to
every reader that starts at the beginning.
-/

namespace LddExamples.StringMessages

open Runs ByteWindows KernelInterface StringBuffers ChunkedTransfers

section MultiReader

open MultiReaderDevice MessageReads

/-- A step of a read. -/
def ReadStep : Call → Prop
  | .wait _ _ | .finish _ _ => True
  | .write _ _ => False

/-- The end of a wait leaves the device. -/
theorem wait_device (system : System) (process : Nat) (signal : Bool) :
    (step system (.wait process signal)).1.device = system.device := by
  simp only [step]
  split
  · rfl
  · split <;> rfl

/-- The steps of reads leave the message. -/
theorem read_step_data (system : System) (call : Call) (read : ReadStep call) :
    (step system call).1.device.data = system.device.data := by
  cases call with
  | write => exact absurd read id
  | wait process signal => rw [wait_device]
  | finish process room =>
    simp only [step]
    split
    · exact read_rest_data system.device room
    · rfl

/-- The flag is up until the message has had the reads that it is meant for. -/
def StillReady (history : List (Event System Call)) (system : System) : Prop :=
  (readsSinceWrite history : Int) < totalReaders →
    system.device.dataReady ≠ 0 ∧ system.device.readersCount = readsSinceWrite history

/-- The steps of reads keep the flag so. -/
theorem still_ready_kept (history : List (Event System Call)) (event : Event System Call)
    (ready : StillReady history event.before) (read : ReadStep event.call) :
    StillReady (history ++ [event]) (event.left step) := by
  obtain ⟨system, call⟩ := event
  cases call with
  | write => exact absurd read id
  | wait process signal =>
    have reads : readsSinceWrite (history ++ [⟨system, .wait process signal⟩]) =
        readsSinceWrite history := reads_since_write_append history _
    simp only [StillReady, Event.left, reads, wait_device]
    exact ready
  | finish process room =>
    by_cases admitted : system.admitted process = true
    · have reads := reads_after_finish history system process room admitted
      by_cases fits : Fits system.device room
      · obtain ⟨device, delivered, -⟩ := read_rest_delivers system.device room fits
        rw [if_pos delivered] at reads
        simp only [StillReady, Event.left, step, if_pos admitted, device, reads]
        intro few
        obtain ⟨up, count⟩ := ready (by omega)
        have more : ¬ totalReaders ≤ system.device.readersCount + 1 := by
          rw [count]
          omega
        rw [if_neg more]
        exact ⟨up, by rw [count]; rfl⟩
      · obtain ⟨device, failed⟩ := read_rest_fails system.device room fits
        have negative : ¬ 0 ≤ (readRest system.device room).2.ret := by
          rw [failed]
          decide
        rw [if_neg negative] at reads
        simp only [StillReady, Event.left, step, if_pos admitted, device, reads]
        exact ready
    · have reads : readsSinceWrite (history ++ [⟨system, .finish process room⟩]) =
          readsSinceWrite history := by
        rw [reads_since_write_append]
        simp only [countReads, Event.reply, step, if_neg admitted]
      simp only [StillReady, Event.left, step, if_neg admitted, reads]
      exact ready

/-- A complete write of a message that fits leaves its string, ready for its readers. -/
theorem write_message (system : System) (message : List UInt8) (short : message.length ≤ 255) :
    (step system (.write (.ofBytes message) message.length)).2 =
        some ⟨(message.length : Nat), []⟩ ∧
      cString (step system (.write (.ofBytes message) message.length)).1.device.data =
        beforeZero message ∧
      StillReady [] (step system (.write (.ofBytes message) message.length)).1 := by
  have len : (if 255 < message.length then 255 else message.length) = message.length :=
    if_neg (by omega)
  have written : myWrite system.device (.ofBytes message) message.length =
      (⟨store (store system.device.data 0 message) message.length [0], 1, 0⟩,
        ⟨(message.length : Nat), []⟩) := by
    simp only [myWrite, len, copyFromUser, UserSource.uncopied_ofBytes, UserSource.landed_ofBytes,
      List.take_length, ne_eq, not_true_eq_false, if_false]
  simp only [step, written, cString_string]
  refine ⟨trivial, string_stored dataSize system.device.data message ?_, fun _ => ⟨?_, rfl⟩⟩
  · simp only [dataSize]
    omega
  · exact one_ne_zero

/-- After the steps of reads, the message and what is known of the flag are still there. -/
theorem message_after_reads (start : System) (calls : List Call) (ready : StillReady [] start)
    (reads : ∀ call ∈ calls, ReadStep call) :
    (after step start calls).device.data = start.device.data ∧
      StillReady (trace step start calls) (after step start calls) := by
  refine history_along step
    (fun history system => system.device.data = start.device.data ∧ StillReady history system)
    (fun _ event => ReadStep event.call) ?_ start calls ⟨rfl, ready⟩ ?_ calls List.prefix_rfl
  · rintro history ⟨system, call⟩ ⟨same, met⟩ read
    exact ⟨(read_step_data system call read).trans same,
      still_ready_kept history ⟨system, call⟩ met read⟩
  · intro earlier call isPrefix
    exact reads call (isPrefix.subset (by simp))

/-- A read with room for the buffer, once its wait has passed, returns the message. -/
theorem finish_reply (system : System) (process : Nat)
    (admitted : system.admitted process = true) :
    (step system (.finish process dataSize)).2 =
      some ⟨(cString system.device.data).length, cString system.device.data⟩ := by
  have fits : Fits system.device dataSize := string_within dataSize system.device.data
  simp only [step, if_pos admitted, read_rest_reply system.device dataSize fits]

/-- A wait passes while the flag is up. -/
theorem wait_passes (system : System) (process : Nat) (signal : Bool)
    (idle : system.admitted process = false) (up : system.device.dataReady ≠ 0) :
    step system (.wait process signal) =
      ({ system with admitted := Function.update system.admitted process true }, none) := by
  simp only [step, idle, Bool.false_eq_true, if_false, waitEvent, if_pos up]

end MultiReader

section Misc

open MiscDevice

/-- The call is not a write. -/
def LeavesMessage : Call → Prop
  | .openFile _ | .read _ _ _ _ _ => True
  | .write _ _ _ _ _ => False

/-- Calls that are not writes leave the buffer. -/
theorem buffer_after (system : System) (calls : List Call)
    (leaves : ∀ call ∈ calls, LeavesMessage call) :
    (after step system calls).kernelBuffer = system.kernelBuffer := by
  induction calls generalizing system with
  | nil => rfl
  | cons call rest later =>
    rw [after_cons, later _ fun other member => leaves other (List.mem_cons_of_mem _ member)]
    cases call with
    | openFile => rfl
    | read =>
      simp only [step]
      split <;> rfl
    | write => exact absurd (leaves _ List.mem_cons_self) id

/-- A write that returns the length of its message leaves its string. -/
theorem misc_write_message (system : System) (file : Nat) (place : Place) (message : List UInt8)
    (accessOk : Bool)
    (returned : (step system (.write file place message.length (.ofBytes message) accessOk)).2.ret =
      message.length) :
    stringIn kernelBufferSize
        (step system
          (.write file place message.length (.ofBytes message) accessOk)).1.kernelBuffer =
      beforeZero message := by
  by_cases outside : loffLimit ≤ place.offset system.positions file
  · simp only [step, if_pos outside] at returned
    exact absurd returned (by simp only [einval]; omega)
  · simp only [step, if_neg outside] at returned ⊢
    obtain ⟨fits, complete, written⟩ := misc_write_success system.kernelBuffer (.ofBytes message)
      (min message.length maxRwCount) accessOk (by omega)
    have whole : min message.length maxRwCount = message.length := by
      rw [written] at returned
      exact Int.natCast_inj.mp returned
    rw [whole] at fits written
    rw [whole, written, UserSource.landed_ofBytes, List.take_length]
    exact string_stored kernelBufferSize system.kernelBuffer message fits

/-- So many bytes are read from the file, with room for them. -/
def miscRequest (file count : Nat) : Call := .read file .current count count true

/-- The string is the content of every file. -/
def miscContent (file : Nat) (system : System) : Flat Nat :=
  ⟨system.kernelBuffer, strlen system.kernelBuffer, system.positions file⟩

/-- The reads of an open file join. -/
theorem misc_reads_join (file : Nat) :
    ReadsJoin step (miscRequest file) (fun system => system.positions file < loffLimit)
      (fun system => (miscContent file system).remaining) := by
  apply window_reads_join step (miscRequest file) _ (miscContent file)
    (fun system position =>
      { system with positions := Function.update system.positions file position })
  · exact fun system position => by simp only [miscContent, Function.update_self]
  · intro system position place reached
    have within := string_within kernelBufferSize system.kernelBuffer
    simp only [miscContent, strlen, kernelBufferSize, loffLimit, Function.update_self]
      at reached within place ⊢
    omega
  · intro system count place
    simp only [miscRequest, step, Place.offset, Place.commit, if_neg (Nat.not_le_of_lt place),
      misc_read_window _ _ _ _ (Nat.min_le_left _ _), miscContent]

/-- A file at the start of the string has all of it before it. -/
theorem remaining_at_start (file : Nat) (system : System) (start : system.positions file = 0) :
    (miscContent file system).remaining = stringIn kernelBufferSize system.kernelBuffer := by
  simp only [miscContent, Flat.remaining, start, Nat.sub_zero]
  exact load_string kernelBufferSize system.kernelBuffer

end Misc

/-- After a write of a message that returns its length, and before another write, reads
return the message as far as its first zero byte, and all of it if it has none.

For the multi-reader device, these are the reads of any process whose wait has passed,
whatever other reads have done since the write; and a wait passes until the message has had
the reads that it is meant for. For the misc device, these are the reads that any file starts
at position zero and goes on with, in any lengths, until one returns zero. -/
theorem messages_before_zero (message : List UInt8) (short : message.length ≤ 255) :
    (∀ (system : MessageReads.System) (calls : List MessageReads.Call) (process : Nat)
        (signal : Bool), (∀ call ∈ calls, ReadStep call) →
      let written := MessageReads.step system (.write (.ofBytes message) message.length)
      let later := after MessageReads.step written.1 calls
      written.2 = some ⟨(message.length : Nat), []⟩ ∧
        (later.admitted process = true →
          (MessageReads.step later (.finish process MultiReaderDevice.dataSize)).2 =
            some ⟨(beforeZero message).length, beforeZero message⟩) ∧
        ((MessageReads.readsSinceWrite (trace MessageReads.step written.1 calls) : Int) <
            MultiReaderDevice.totalReaders → later.admitted process = false →
          (MessageReads.step later (.wait process signal)) =
            ({ later with admitted := Function.update later.admitted process true }, none))) ∧
      (∀ (system : MiscDevice.System) (file : Nat) (place : Place) (accessOk : Bool)
        (calls : List MiscDevice.Call) (reader : Nat) (counts : List Nat),
        (∀ call ∈ calls, LeavesMessage call) → (∀ count ∈ counts, 0 < count) →
      let written := MiscDevice.step system
        (.write file place message.length (.ofBytes message) accessOk)
      let later := after MiscDevice.step written.1 calls
      written.2.ret = message.length → later.positions reader = 0 →
        (∀ bytes, readUntilEnd MiscDevice.step (miscRequest reader) later counts = some bytes →
          bytes = beforeZero message) ∧
        ((beforeZero message).length < counts.length →
          readUntilEnd MiscDevice.step (miscRequest reader) later counts =
            some (beforeZero message))) ∧
      ((0 : UInt8) ∉ message → beforeZero message = message) := by
  refine ⟨?_, ?_, (before_zero_eq_self_iff message).mpr⟩
  · intro system calls process signal reads written later
    obtain ⟨reply, string, ready⟩ := write_message system message short
    obtain ⟨same, still⟩ := message_after_reads written.1 calls ready reads
    refine ⟨reply, fun admitted => ?_, fun few idle => ?_⟩
    · rw [finish_reply later process admitted, same, string]
    · exact wait_passes later process signal idle (still few).1
  · intro system file place accessOk calls reader counts leaves positive written later returned
      start
    have string := misc_write_message system file place message accessOk returned
    have remaining : (miscContent reader later).remaining = beforeZero message := by
      rw [remaining_at_start reader later start, buffer_after written.1 calls leaves, string]
    have place : later.positions reader < loffLimit := by
      rw [start]
      exact start_admitted
    have joined := misc_reads_join reader later counts place positive
    simp only [remaining] at joined
    exact joined

/-- A message of two letters is read back from the misc device letter by letter. -/
theorem letters_read_back :
    [72, 105].length ≤ 255 ∧
      readUntilEnd MiscDevice.step (miscRequest 0)
          (MiscDevice.step (MiscDevice.loaded fun _ => 0)
            (.write 0 .current 2 (.ofBytes [72, 105]) true)).1 [1, 1, 1] = some [72, 105] := by
  have short : [72, 105].length ≤ 255 := by decide
  have reads := (messages_before_zero [72, 105] short).2.1 (MiscDevice.loaded fun _ => 0) 0 .current
    true [] 0 [1, 1, 1] (by simp) (by decide) (by decide +kernel) rfl
  exact ⟨short, reads.2 (by decide)⟩

/-- Three bytes with a zero in the middle. -/
def zeroInside : List UInt8 := [65, 0, 66]

/-- Both devices take the three bytes, and return one of them; and a third reader of the
multi-reader device waits in vain. -/
theorem zero_byte_cuts :
    (MessageReads.step MessageReads.start (.write (.ofBytes zeroInside) 3)).2 = some ⟨3, []⟩ ∧
      (MessageReads.step
        (after MessageReads.step MessageReads.start [.write (.ofBytes zeroInside) 3, .wait 0 false])
        (.finish 0 256)).2 = some ⟨1, [65]⟩ ∧
      (MessageReads.step
        (after MessageReads.step MessageReads.start [.write (.ofBytes zeroInside) 3, .wait 0 false,
          .finish 0 256, .wait 1 false, .finish 1 256]) (.wait 2 false)).2 =
        some ⟨-etimedout, []⟩ ∧
      (MiscDevice.step (MiscDevice.loaded fun _ => 0)
        (.write 0 .current 3 (.ofBytes zeroInside) true)).2.ret = 3 ∧
      readUntilEnd MiscDevice.step (miscRequest 0)
        (MiscDevice.step (MiscDevice.loaded fun _ => 0)
          (.write 0 .current 3 (.ofBytes zeroInside) true)).1 [256, 256] = some [65] ∧
      [65] ≠ zeroInside := by
  decide +kernel

end LddExamples.StringMessages
