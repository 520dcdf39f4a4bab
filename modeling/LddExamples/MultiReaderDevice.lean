import LddExamples.StringStores

/-!
# The multi-reader device

`012_multi_reader_wait/driver.c`: one message of at most 255 bytes, a flag that says
that it is ready, and the number of reads that it has had. A read waits for the
flag, returns the whole message whatever length it asks for, and takes the flag down
when it is the last that the message is meant for. Nothing protects the variables.

The message is the string in the buffer, up to its first zero byte; the last byte of
the buffer is never written but with zero. Any process may read, and between the
passing of the wait and the rest of a read other processes may run. The wait ends
without the flag by a signal or after five seconds. Registration and the log are
left out.
-/

namespace LddExamples.MultiReaderDevice

open ByteWindows KernelInterface StoreLogs StringBuffers StringStores

/-- The bytes of the buffer. -/
def dataSize : Nat := 256

/-- How many reads take a message down. -/
def totalReaders : Int := 2

/-- The buffer, the flag that readers wait for, and the number of readers that have had the
message. -/
structure Device where
  data : Memory
  dataReady : Int
  readersCount : Int

/-- The bytes that `strlen` counts. -/
def cString (data : Memory) : List UInt8 :=
  (load data 0 dataSize).takeWhile (fun byte => decide (byte ≠ 0))

/-- The error with which the wait ends, if it does not pass. -/
def waitEvent (device : Device) (signal : Bool) : Option Int :=
  if device.dataReady ≠ 0 then none else some (if signal then -erestartsys else -etimedout)

/-- `my_read` after the wait. -/
def readRest (device : Device) (room : Nat) : Device × Reply :=
  let len := (cString device.data).length
  let (data, missing) := copyToUser (load device.data 0 len) room
  if missing ≠ 0 then (device, ⟨-efault, data⟩)
  else
    let readersCount := device.readersCount + 1
    if totalReaders ≤ readersCount then
      ({ device with readersCount := 0, dataReady := 0 }, ⟨len, data⟩)
    else ({ device with readersCount := readersCount }, ⟨len, data⟩)

/-- A whole `my_read` without interruption. -/
def myRead (device : Device) (signal : Bool) (room : Nat) : Device × Reply :=
  match waitEvent device signal with
  | some error => (device, ⟨error, []⟩)
  | none => readRest device room

/-- A write stores its bytes, 255 at most, and a terminator, raises the flag and starts the
count of the readers again, also over a message that not every reader has had. A copy that
fails leaves the flag and the count, and the bytes that it has stored. -/
def myWrite (device : Device) (source : UserSource) (len : Nat) : Device × Reply :=
  let len := if 255 < len then 255 else len
  let (data, missing) := copyFromUser device.data 0 source len
  if missing ≠ 0 then ({ device with data := data }, ⟨-efault, []⟩)
  else (⟨store data len [0], 1, 0⟩, ⟨len, []⟩)

/-- The device as loading leaves it. -/
def loaded : Device := ⟨fun _ => 0, 0, 0⟩

/-- The copy of a read reaches the end of the message. -/
def Fits (device : Device) (room : Nat) : Prop := (cString device.data).length ≤ room

instance (device : Device) (room : Nat) : Decidable (Fits device room) :=
  inferInstanceAs (Decidable (_ ≤ _))

/-- A read that cannot deliver the whole message fails, and is not counted. -/
theorem read_rest_fails (device : Device) (room : Nat) (short : ¬ Fits device room) :
    (readRest device room).1 = device ∧ (readRest device room).2.ret = -efault := by
  have missing : (cString device.data).length - room ≠ 0 := by
    simp only [Fits] at short
    omega
  simp only [readRest, copyToUser, load_length, if_pos missing, and_self]

/-- The message is the string in the buffer. -/
theorem cString_string (data : Memory) : cString data = stringIn dataSize data := rfl

/-- Loading as many bytes as the string has is loading the string. -/
theorem load_cString (data : Memory) : load data 0 (cString data).length = cString data :=
  load_string dataSize data

/-- A read with room for the whole message returns it. -/
theorem read_rest_reply (device : Device) (room : Nat) (fits : Fits device room) :
    (readRest device room).2 = ⟨(cString device.data).length, cString device.data⟩ := by
  have whole : (cString device.data).take room = cString device.data :=
    List.take_of_length_le fits
  have missing : (cString device.data).length - room = 0 := by
    simp only [Fits] at fits
    omega
  simp only [readRest, copyToUser, load_cString, missing, ne_eq, not_true_eq_false, if_false,
    whole]
  split <;> rfl

/-- A read that delivers the whole message is counted, and the last one takes the
flag down. -/
theorem read_rest_delivers (device : Device) (room : Nat) (fits : Fits device room) :
    (readRest device room).1 =
        (if totalReaders ≤ device.readersCount + 1 then
          { device with readersCount := 0, dataReady := 0 }
        else { device with readersCount := device.readersCount + 1 }) ∧
      0 ≤ (readRest device room).2.ret ∧ (readRest device room).2.data = cString device.data := by
  have missing : (cString device.data).length - room = 0 := by
    simp only [Fits] at fits
    omega
  rw [read_rest_reply device room fits]
  refine ⟨?_, Int.natCast_nonneg _, rfl⟩
  simp only [readRest, copyToUser, load_cString, missing, ne_eq, not_true_eq_false, if_false]
  split <;> rfl

/-- A whole read that finds the flag down fails, and is not counted. -/
theorem my_read_waits (device : Device) (signal : Bool) (room : Nat)
    (down : device.dataReady = 0) :
    (myRead device signal room).1 = device ∧ (myRead device signal room).2.ret < 0 := by
  simp only [myRead, waitEvent, down, ne_eq, not_true_eq_false, if_false]
  refine ⟨trivial, ?_⟩
  cases signal with
  | false => decide
  | true => decide

/-- A whole read that finds the flag up is the rest of the read. -/
theorem my_read_ready (device : Device) (signal : Bool) (room : Nat)
    (up : device.dataReady ≠ 0) : myRead device signal room = readRest device room := by
  simp only [myRead, waitEvent, if_pos up]

/-- A write either fails and leaves the flag and the number of reads, or starts a new
message. -/
theorem my_write_cases (device : Device) (source : UserSource) (len : Nat) :
    ((myWrite device source len).2.ret < 0 ∧
        (myWrite device source len).1.dataReady = device.dataReady ∧
        (myWrite device source len).1.readersCount = device.readersCount) ∨
      (0 ≤ (myWrite device source len).2.ret ∧ (myWrite device source len).1.dataReady = 1 ∧
        (myWrite device source len).1.readersCount = 0) := by
  have fault : -efault < 0 := by decide
  simp only [myWrite]
  generalize (if 255 < len then 255 else len) = copied
  by_cases missing : (copyFromUser device.data 0 source copied).2 ≠ 0
  · rw [if_pos missing]
    exact Or.inl ⟨fault, rfl, rfl⟩
  · rw [if_neg missing]
    exact Or.inr ⟨Int.natCast_nonneg _, rfl, rfl⟩

/-- A write stores the string of its bytes, as many as fit. -/
theorem my_write_log (device : Device) (source : UserSource) (len : Nat) :
    (myWrite device source len).1.data =
      storeAll device.data (stringStores source (if 255 < len then 255 else len)) := by
  rw [string_store_all]
  simp only [myWrite]
  generalize (if 255 < len then 255 else len) = copied
  split <;> rfl

/-- A read does not touch the buffer. -/
theorem read_rest_data (device : Device) (room : Nat) :
    (readRest device room).1.data = device.data := by
  by_cases fits : Fits device room
  · rw [(read_rest_delivers device room fits).1]
    split
    · rfl
    · rfl
  · rw [(read_rest_fails device room fits).1]

end LddExamples.MultiReaderDevice
