import LddExamples.InterruptDemo
import LddExamples.LightDevice
import LddExamples.MultiReaderDevice
import LddExamples.TemperatureLog

/-!
# Reads that ignore the length they are asked for

Four read handlers copy what the driver holds: a message, a text, a struct or an int.
None of them looks at the length that its caller asks for, so the copy stays inside
the caller's buffer only when there is not more to copy, or when user memory faults
before the buffer ends. Three of them return the number of bytes of a complete copy;
the temperature logger returns one for the four bytes of an int.
-/

namespace LddExamples.ReadLengths

open KernelInterface

/-- A call of one of the handlers, in any state of its driver. -/
inductive Read where
  | myRead (device : MultiReaderDevice.Device) (signal : Bool) (room : Nat)
  | irqRead (device : InterruptDemo.Device) (room : Nat)
  | lightRead (device : LightDevice.Device) (lRead : LightDevice.LightStatus) (room : Nat)
  | deviceRead (device : TemperatureLog.Device) (tempVal : BitVec 32) (room : Nat)

/-- What the read returns. -/
def Read.reply : Read → Reply
  | .myRead device signal room => (MultiReaderDevice.myRead device signal room).2
  | .irqRead device room => InterruptDemo.irqRead device room
  | .lightRead device lRead room => LightDevice.lightRead device lRead room
  | .deviceRead device tempVal room => (TemperatureLog.deviceRead device tempVal room).2

/-- The stored bytes are within the requested length, and a return value that is not
an error is their number. -/
def Reply.Within (reply : Reply) (len : Nat) : Prop :=
  reply.data.length ≤ len ∧ (0 ≤ reply.ret → reply.ret = reply.data.length)

/-- There is not more to copy than is asked for, or than user memory takes before it
faults. The logger moreover must not succeed. -/
def Read.Fits (len : Nat) : Read → Prop
  | .myRead device _ room =>
      device.dataReady = 0 ∨ min room (MultiReaderDevice.cString device.data).length ≤ len
  | .irqRead device room =>
      min room (99 + InterruptDemo.digits device.interruptCount +
        InterruptDemo.digits device.taskletCount + InterruptDemo.digits device.workQueueCount +
        InterruptDemo.digits
          (device.interruptCount + device.taskletCount + device.workQueueCount)) ≤ len
  | .lightRead _ _ room => min room 3 ≤ len
  | .deviceRead _ _ room => room < 4 ∧ room ≤ len

/-- The reply of a handler that copies all its bytes at once: the number of bytes, or
an error once some are missing. -/
def copied (bytes : List UInt8) (room : Nat) : Reply :=
  if (copyToUser bytes room).2 ≠ 0 then ⟨-efault, (copyToUser bytes room).1⟩
  else ⟨bytes.length, (copyToUser bytes room).1⟩

/-- Such a handler stays within the requested length exactly when its bytes, up to
the first fault, do. -/
theorem copied_within_iff (bytes : List UInt8) (room len : Nat) :
    Reply.Within (copied bytes room) len ↔ min room bytes.length ≤ len := by
  have number : (copyToUser bytes room).1.length = min room bytes.length := List.length_take
  have rest : (copyToUser bytes room).2 = bytes.length - room := rfl
  have fault : ¬ (0 : Int) ≤ -efault := by decide
  by_cases missing : (copyToUser bytes room).2 ≠ 0
  · rw [copied, if_pos missing]
    simp only [Reply.Within, number]
    exact ⟨fun within => within.1, fun within => ⟨within, fun succeeds => absurd succeeds fault⟩⟩
  · rw [copied, if_neg missing]
    simp only [Reply.Within, number]
    refine ⟨fun within => within.1, fun within => ⟨within, fun _ => ?_⟩⟩
    omega

/-- The rest of a `my_read` copies the string of the message. -/
theorem read_rest_copied (device : MultiReaderDevice.Device) (room : Nat) :
    (MultiReaderDevice.readRest device room).2 =
      copied (MultiReaderDevice.cString device.data) room := by
  simp only [MultiReaderDevice.readRest, MultiReaderDevice.load_cString, copied]
  split
  · rfl
  · split
    · rfl
    · rfl

/-- The logger's read returns one where others return the number of bytes. -/
theorem device_read_within_iff (device : TemperatureLog.Device) (tempVal : BitVec 32)
    (room len : Nat) :
    Reply.Within (TemperatureLog.deviceRead device tempVal room).2 len ↔
      room < 4 ∧ room ≤ len := by
  have number : (copyToUser (intBytes tempVal) room).1.length = min room 4 := by
    rw [← int_bytes_length tempVal]
    exact List.length_take
  have rest : (copyToUser (intBytes tempVal) room).2 = 4 - room := by
    rw [← int_bytes_length tempVal]
    rfl
  have fault : ¬ (0 : Int) ≤ -efault := by decide
  simp only [TemperatureLog.deviceRead]
  by_cases missing : (copyToUser (intBytes tempVal) room).2 ≠ 0
  · rw [if_pos missing]
    simp only [Reply.Within, number]
    constructor
    · exact fun within => ⟨by omega, by omega⟩
    · exact fun within => ⟨by omega, fun succeeds => absurd succeeds fault⟩
  · rw [if_neg missing]
    simp only [Reply.Within, number]
    constructor
    · intro within
      have one := within.2 Int.one_nonneg
      omega
    · intro within
      omega

/-- In every state of its driver and for every requested length, a read stays within
that length and returns the number of bytes that it has stored exactly when there is
not more to store. -/
theorem read_within_iff (read : Read) (len : Nat) :
    Reply.Within read.reply len ↔ read.Fits len := by
  cases read with
  | myRead device signal room =>
    by_cases down : device.dataReady = 0
    · have failed := (MultiReaderDevice.my_read_waits device signal room down).2
      have nothing : (MultiReaderDevice.myRead device signal room).2.data = [] := by
        simp [MultiReaderDevice.myRead, MultiReaderDevice.waitEvent, down]
      refine iff_of_true ⟨?_, fun succeeds => absurd failed (Int.not_lt.mpr succeeds)⟩ (Or.inl down)
      rw [Read.reply, nothing]
      exact Nat.zero_le len
    · rw [Read.reply, MultiReaderDevice.my_read_ready device signal room down,
        read_rest_copied, copied_within_iff]
      exact (or_iff_right down).symm
  | irqRead device room =>
    have reply : InterruptDemo.irqRead device room =
        copied (InterruptDemo.statistics device) room := rfl
    rw [Read.reply, reply, copied_within_iff, (InterruptDemo.statistics_length device).1]
    rfl
  | lightRead device lRead room =>
    exact copied_within_iff _ room len
  | deviceRead device tempVal room =>
    exact device_read_within_iff device tempVal room len

/-- The message `ab`, ready to be read. -/
def twoBytes : MultiReaderDevice.Device :=
  ⟨ByteWindows.store (fun _ => 0) 0 [97, 98], 1, 0⟩

/-- Asked for one byte of 256, each of the four handlers stores more; and asked for
four, the logger stores them and returns one. -/
theorem one_byte_overrun :
    ¬ Reply.Within (Read.myRead twoBytes false 256).reply 1 ∧
      ¬ Reply.Within (Read.irqRead InterruptDemo.loaded 256).reply 1 ∧
      ¬ Reply.Within (Read.lightRead LightDevice.loaded ⟨false, 0, 0⟩ 256).reply 1 ∧
      ¬ Reply.Within (Read.deviceRead ⟨0, 0, 0⟩ 20 256).reply 4 := by
  refine ⟨?_, ?_, ?_, ?_⟩
  · exact fun within => absurd within.1 (by decide)
  · intro within
    have short :=
      (copied_within_iff (InterruptDemo.statistics InterruptDemo.loaded) 256 1).mp within
    have long := (InterruptDemo.statistics_length InterruptDemo.loaded).1
    omega
  · exact fun within => absurd within.1 (by decide)
  · exact fun within => absurd (within.2 (by decide)) (by decide)

end LddExamples.ReadLengths
