import LddExamples.Runs
import LddExamples.KernelInterface

/-!
# The multi-minor character driver

`010_multi_char_driver/driver.c`: two devices, each a buffer of 1024 bytes and the
length of its content, reached through open files and through sysfs attributes.
Arithmetic between a `loff_t` and a `size_t` is done in their common type, which
depends on the kernel's word; sums that a preceding test bounds are exact.

A handler is one critical section under the lock of its device; a signal may end
the wait for it. The caller refuses a position that is negative as a `loff_t` and
cuts a requested length. The devices' own pointers and the kernel log are left out.
-/

namespace LddExamples.MultiMinorDevice

open ByteWindows KernelInterface

/-- `MYDEV_COUNT`, the number of devices. -/
abbrev mydevCount : Nat := 2

/-- `BUF_SIZE`, the bytes of a device's buffer. -/
def bufSize : Nat := 1024

/-- A device of the driver, by its number. -/
abbrev Minor := Fin mydevCount

/-- The first of the two devices. -/
def firstMinor : Minor := ⟨0, by decide⟩

/-- A buffer and the length of its content. The buffer is memory without an end, so that an
access beyond its 1024 bytes would be seen as one. -/
structure MydevDevice where
  buf : Memory
  len : Nat

/-- The devices by number. -/
abbrev Devices := Minor → MydevDevice

/-- The common opening of the handlers: a null pointer to the device is invalid,
and a signal ends the wait for its lock. -/
def underLock {β : Type} (device : Option Minor) (interrupted : Bool) (refused : Int → β)
    (body : Minor → β) : β :=
  match device with
  | none => refused (-einval)
  | some minor => if interrupted then refused (-erestartsys) else body minor

/-- A null pointer is refused before the lock. -/
@[simp] theorem underLock_none {β : Type} (interrupted : Bool) (refused : Int → β)
    (body : Minor → β) : underLock none interrupted refused body = refused (-einval) := rfl

/-- A wait that a signal ends is refused. -/
@[simp] theorem underLock_interrupted {β : Type} (minor : Minor) (refused : Int → β)
    (body : Minor → β) :
    underLock (some minor) true refused body = refused (-erestartsys) := rfl

/-- Otherwise the body is executed. -/
@[simp] theorem underLock_some {β : Type} (minor : Minor) (refused : Int → β)
    (body : Minor → β) : underLock (some minor) false refused body = body minor := rfl

/-- A read from an offset returns what the content has there, as far as it was asked for,
and fails without moving the offset if the user memory has no room for all of it. At or
behind the end of the content it returns zero. -/
def mydevRead (word : Word) (devices : Devices) (privateData : Option Minor)
    (count room ppos : Nat) (interrupted : Bool) : Served :=
  underLock privateData interrupted (fun error => ⟨error, ppos, []⟩) fun minor =>
    let d := devices minor
    if word.mixed d.len ≤ word.mixed ppos then ⟨0, ppos, []⟩
    else
      let rest := word.mixed ((d.len : Int) - ppos)
      let count := if rest < count then wrapUnsigned word.bits rest else count
      let (data, missing) := copyToUser (load d.buf ppos count) room
      if missing ≠ 0 then ⟨-efault, ppos, data⟩ else ⟨count, ppos + count, data⟩

/-- A write stores at its offset what the buffer has room for, and moves the length to its
end if that is larger; it never moves it back, and never fills the bytes between the content
and the offset. Bytes that a failing copy has stored stay. -/
def mydevWrite (word : Word) (devices : Devices) (privateData : Option Minor)
    (source : UserSource) (count ppos : Nat) (interrupted : Bool) : Stored Devices :=
  underLock privateData interrupted (fun error => ⟨devices, error, ppos⟩) fun minor =>
    let d := devices minor
    if bufSize ≤ ppos then ⟨devices, -enospc, ppos⟩
    else
      let rest := word.mixed ((bufSize : Int) - ppos)
      let count := if rest < count then wrapUnsigned word.bits rest else count
      let (buf, missing) := copyFromUser d.buf ppos source count
      if missing ≠ 0 then
        ⟨Function.update devices minor { d with buf := buf }, -efault, ppos⟩
      else
        let ppos := ppos + count
        let len := if word.mixed d.len < word.mixed ppos then wrapUnsigned word.bits ppos else d.len
        ⟨Function.update devices minor ⟨buf, len⟩, count, ppos⟩

/-- `SEEK_SET` -/
def seekSet : Int := 0

/-- `SEEK_CUR` -/
def seekCur : Int := 1

/-- `SEEK_END` -/
def seekEnd : Int := 2

/-- The position that a seek asks for; no other `whence` is known. -/
def newPosition (word : Word) (len fPos : Nat) (off whence : Int) : Option Int :=
  if whence = seekSet then some off
  else if whence = seekCur then some (wrapSigned 64 (fPos + off))
  else if whence = seekEnd then some (wrapSigned 64 (word.mixed (len + off)))
  else none

/-- The return value and the file position that a seek leaves. -/
def mydevLlseek (word : Word) (devices : Devices) (privateData : Option Minor) (fPos : Nat)
    (off whence : Int) (interrupted : Bool) : Int × Nat :=
  underLock privateData interrupted (fun error => (error, fPos)) fun minor =>
    match newPosition word (devices minor).len fPos off whence with
    | none => (-einval, fPos)
    | some newpos =>
      if newpos < 0 ∨ (bufSize : Int) < newpos then (-einval, fPos) else (newpos, newpos.toNat)

/-- The page that an attribute is printed to. -/
def pageSize : Nat := 4096

/-- The kernel keeps a precision as a signed 16-bit number. -/
def precisionMax : Nat := 32767

/-- The bytes that `%.*s` prints: at most the precision, and none from the first
zero byte on. -/
def formatString (precision : Int) (memory : Memory) : List UInt8 :=
  (load memory 0 (min precision.toNat precisionMax)).takeWhile (fun byte => decide (byte ≠ 0))

/-- An attribute's output is cut to a page less its terminator. -/
def sysfsEmit (text : List UInt8) : Reply :=
  ⟨(text.take (pageSize - 1)).length, text.take (pageSize - 1)⟩

/-- The character behind an attribute's text. -/
def newline : UInt8 := 10

/-- The `data` attribute prints the buffer as a string with the length of the content as its
precision, and a newline. The conversion of the length to an int is exact for every content
that fits. -/
def dataShow (devices : Devices) (drvdata : Option Minor) (interrupted : Bool) : Reply :=
  underLock drvdata interrupted (fun error => ⟨error, []⟩) fun minor =>
    let d := devices minor
    sysfsEmit (formatString (wrapSigned 32 d.len) d.buf ++ [newline])

/-- The input is `count` bytes of kernel memory. -/
def dataStore (devices : Devices) (drvdata : Option Minor) (input : List UInt8)
    (interrupted : Bool) : Devices × Int :=
  underLock drvdata interrupted (fun error => (devices, error)) fun minor =>
    let count := if bufSize < input.length then bufSize else input.length
    let buf := store (devices minor).buf 0 (input.take count)
    (Function.update devices minor ⟨buf, count⟩, count)

/-- The characters `len=`. -/
def lenLabel : List UInt8 := [108, 101, 110, 61]

/-- The `stats` attribute prints the length in decimal. -/
def statsShow (devices : Devices) (drvdata : Option Minor) (interrupted : Bool) : Reply :=
  underLock drvdata interrupted (fun error => ⟨error, []⟩) fun minor =>
    sysfsEmit (lenLabel ++ decimalBytes (devices minor).len ++ [newline])

/-- A write to `reset` empties the content and clears the buffer, whatever its bytes are,
and takes all of them. -/
def resetStore (devices : Devices) (drvdata : Option Minor) (count : Nat) (interrupted : Bool) :
    Devices × Int :=
  underLock drvdata interrupted (fun error => (devices, error)) fun minor =>
    (Function.update devices minor ⟨fill (devices minor).buf 0 bufSize 0, 0⟩, count)

/-- The devices as loading the module leaves them, over any memory. -/
def mydevInit (memory : Minor → Memory) : Devices :=
  fun minor => ⟨fill (memory minor) 0 bufSize 0, 0⟩

/-- The devices and, for every file, its pointer to a device and its position. -/
structure System where
  devices : Devices
  privateData : Nat → Option Minor
  positions : Positions

/-- The calls on the driver: on open files, each read or write at the file's position or at
one of its own, and on the attributes of a device. What a signal, a fault or the caller
decides is part of the call. -/
inductive Call where
  | openFile (file : Nat) (minor : Minor)
  | release (file : Nat)
  | read (file : Nat) (place : Place) (count room : Nat) (interrupted : Bool)
  | write (file : Nat) (place : Place) (count : Nat) (source : UserSource) (interrupted : Bool)
  | llseek (file : Nat) (off : BitVec 64) (whence : Int) (interrupted : Bool)
  | dataShow (minor : Minor) (interrupted : Bool)
  | dataStore (minor : Minor) (input : List UInt8) (interrupted : Bool)
  | statsShow (minor : Minor) (interrupted : Bool)
  | resetStore (minor : Minor) (count : Nat) (interrupted : Bool)

/-- One complete call. A file starts at position zero; an attribute's driver data
is set before the attribute exists. -/
def step (word : Word) (system : System) : Call → System × Reply
  | .openFile file minor =>
      ({ system with
          privateData := Function.update system.privateData file (some minor)
          positions := Function.update system.positions file 0 }, ⟨0, []⟩)
  | .release file =>
      ({ system with privateData := Function.update system.privateData file none }, ⟨0, []⟩)
  | .read file place count room interrupted =>
      let offset := place.offset system.positions file
      if loffLimit ≤ offset then (system, ⟨-einval, []⟩)
      else
        let served := mydevRead word system.devices (system.privateData file)
          (min count maxRwCount) room offset interrupted
        ({ system with positions := place.commit system.positions file served.offset },
          ⟨served.ret, served.data⟩)
  | .write file place count source interrupted =>
      let offset := place.offset system.positions file
      if loffLimit ≤ offset then (system, ⟨-einval, []⟩)
      else
        let stored := mydevWrite word system.devices (system.privateData file) source
          (min count maxRwCount) offset interrupted
        ({ system with
            devices := stored.state
            positions := place.commit system.positions file stored.offset }, ⟨stored.ret, []⟩)
  | .llseek file off whence interrupted =>
      let (ret, fPos) := mydevLlseek word system.devices (system.privateData file)
        (system.positions file) off.toInt whence interrupted
      ({ system with positions := Function.update system.positions file fPos }, ⟨ret, []⟩)
  | .dataShow minor interrupted =>
      (system, dataShow system.devices (some minor) interrupted)
  | .dataStore minor input interrupted =>
      let (devices, ret) := dataStore system.devices (some minor) input interrupted
      ({ system with devices := devices }, ⟨ret, []⟩)
  | .statsShow minor interrupted =>
      (system, statsShow system.devices (some minor) interrupted)
  | .resetStore minor count interrupted =>
      let (devices, ret) := resetStore system.devices (some minor) count interrupted
      ({ system with devices := devices }, ⟨ret, []⟩)

/-- The freshly loaded module, with no open file. -/
def loaded (memory : Minor → Memory) : System :=
  ⟨mydevInit memory, fun _ => none, fun _ => 0⟩

/-- The two copies of a difference between a bound of the buffer and a position
inside it agree with the difference itself, on either kernel. -/
theorem rest_exact (word : Word) (bound ppos : Nat) (small : bound ≤ bufSize)
    (inside : ppos < bound) :
    word.mixed ((bound : Int) - ppos) = (bound - ppos : Nat) ∧
      wrapUnsigned word.bits (bound - ppos : Nat) = bound - ppos := by
  simp only [bufSize] at small
  have exact : word.mixed ((bound : Int) - ppos) = (bound : Int) - ppos :=
    word.mixed_exact _ (by omega) (by omega)
  refine ⟨by rw [exact]; omega, ?_⟩
  cases word <;> simp only [wrapUnsigned, Word.bits] <;> omega

/-- The conversions of a read leave the clamp of the request to the rest. -/
theorem clamp_exact (word : Word) (bound ppos count : Nat) (small : bound ≤ bufSize)
    (inside : ppos < bound) :
    (if word.mixed ((bound : Int) - ppos) < count then
        wrapUnsigned word.bits (word.mixed ((bound : Int) - ppos)) else count) =
      min count (bound - ppos) := by
  obtain ⟨rest, narrow⟩ := rest_exact word bound ppos small inside
  rw [rest, narrow]
  split <;> omega

/-- A read that gets to the buffer is a window read of the content. -/
theorem mydev_read_window (word : Word) (devices : Devices) (minor : Minor)
    (count room ppos : Nat) (bounded : (devices minor).len ≤ bufSize)
    (admitted : ppos < loffLimit) :
    mydevRead word devices (some minor) count room ppos false =
      windowRead (devices minor).buf (devices minor).len ppos count room := by
  have small : (devices minor).len ≤ 1024 := bounded
  have place : ppos < 2 ^ 63 := admitted
  have length : word.mixed ((devices minor).len : Int) = (devices minor).len :=
    word.mixed_exact _ (by omega) (by omega)
  have position : word.mixed (ppos : Int) = ppos := word.mixed_exact _ (by omega) (by omega)
  simp only [mydevRead, underLock_some, windowRead, length, position, Int.ofNat_le]
  by_cases past : (devices minor).len ≤ ppos
  · simp only [past, if_true]
  · have clamp := clamp_exact word _ ppos count bounded (Nat.lt_of_not_le past)
    simp only [past, if_false, clamp]

/-- A write gets as far as its copy: the file has a device, no signal ends its
wait, and it starts inside the buffer. -/
def WriteAccepted (privateData : Option Minor) (ppos : Nat) (interrupted : Bool) (minor : Minor) :
    Prop :=
  privateData = some minor ∧ interrupted = false ∧ ppos < bufSize

/-- A write that is not accepted fails and changes nothing. -/
theorem mydev_write_refused (word : Word) (devices : Devices) (privateData : Option Minor)
    (source : UserSource) (count ppos : Nat) (interrupted : Bool)
    (refused : ∀ minor, ¬ WriteAccepted privateData ppos interrupted minor) :
    ∃ ret, mydevWrite word devices privateData source count ppos interrupted =
      ⟨devices, ret, ppos⟩ ∧ ret < 0 := by
  cases privateData with
  | none => exact ⟨-einval, rfl, by decide⟩
  | some minor =>
    cases interrupted with
    | true => exact ⟨-erestartsys, rfl, by decide⟩
    | false =>
      have past : bufSize ≤ ppos := by
        by_contra inside
        exact refused minor ⟨rfl, rfl, Nat.lt_of_not_le inside⟩
      exact ⟨-enospc, by simp only [mydevWrite, underLock_some, if_pos past], by decide⟩

/-- An accepted write stores what its copy delivers. A complete copy extends the
content to its end; any other fails and leaves the length and the offset. -/
theorem mydev_write_accepted (word : Word) (devices : Devices) (privateData : Option Minor)
    (source : UserSource) (count ppos : Nat) (interrupted : Bool) (minor : Minor)
    (bounded : (devices minor).len ≤ bufSize)
    (accepted : WriteAccepted privateData ppos interrupted minor) :
    mydevWrite word devices privateData source count ppos interrupted =
      if source.uncopied (min count (bufSize - ppos)) ≠ 0 then
        ⟨Function.update devices minor
          ⟨store (devices minor).buf ppos (source.landed (min count (bufSize - ppos))),
            (devices minor).len⟩, -efault, ppos⟩
      else
        ⟨Function.update devices minor
          ⟨store (devices minor).buf ppos (source.landed (min count (bufSize - ppos))),
            max (devices minor).len (ppos + min count (bufSize - ppos))⟩,
          (min count (bufSize - ppos) : Nat), ppos + min count (bufSize - ppos)⟩ := by
  obtain ⟨rfl, rfl, inside⟩ := accepted
  have small : (devices minor).len ≤ 1024 := bounded
  have clamp := clamp_exact word bufSize ppos count (Nat.le_refl _) inside
  have stop : ppos + min count (bufSize - ppos) ≤ 1024 := by
    simp only [bufSize] at inside ⊢
    omega
  have length : word.mixed ((devices minor).len : Int) = (devices minor).len :=
    word.mixed_exact _ (by omega) (by omega)
  have reached : word.mixed ((ppos + min count (bufSize - ppos) : Nat) : Int) =
      (ppos + min count (bufSize - ppos) : Nat) := word.mixed_exact _ (by omega) (by omega)
  have narrow : wrapUnsigned word.bits ((ppos + min count (bufSize - ppos) : Nat) : Int) =
      ppos + min count (bufSize - ppos) := by
    cases word <;> simp only [wrapUnsigned, Word.bits] <;> omega
  have longer : (if (devices minor).len < ppos + min count (bufSize - ppos) then
      ppos + min count (bufSize - ppos) else (devices minor).len) =
        max (devices minor).len (ppos + min count (bufSize - ppos)) := by
    split <;> omega
  simp only [mydevWrite, underLock_some, if_neg (Nat.not_le_of_lt inside), clamp, copyFromUser,
    length, reached, narrow, Int.ofNat_lt, longer]

/-- Each device of the two families has the same content: the bytes below its
length. -/
def SameContents (first second : Devices) : Prop :=
  ∀ minor, (first minor).len = (second minor).len ∧
    ∀ index < (first minor).len, (first minor).buf index = (second minor).buf index

/-- A new buffer for one device gives the same contents when it agrees below the
length. -/
theorem same_contents_update (devices : Devices) (minor : Minor) (buf : Memory)
    (agree : ∀ index < (devices minor).len, buf index = (devices minor).buf index) :
    SameContents (Function.update devices minor ⟨buf, (devices minor).len⟩) devices := by
  intro other
  by_cases same : other = minor
  · subst same
    rw [Function.update_self]
    exact ⟨rfl, agree⟩
  · rw [Function.update_of_ne same]
    exact ⟨rfl, fun _ _ => rfl⟩

/-- No content is longer than its buffer. -/
def Bounded (devices : Devices) : Prop := ∀ minor, (devices minor).len ≤ bufSize

/-- Replacing one device by one whose content fits keeps the bound. -/
theorem bounded_update (devices : Devices) (minor : Minor) (device : MydevDevice)
    (bounded : Bounded devices) (fits : device.len ≤ bufSize) :
    Bounded (Function.update devices minor device) := by
  intro other
  by_cases same : other = minor
  · rw [same, Function.update_self]
    exact fits
  · rw [Function.update_of_ne same]
    exact bounded other

/-- Every call keeps the bound of the contents. -/
theorem bounded_kept (word : Word) (system : System) (call : Call)
    (bounded : Bounded system.devices) : Bounded (step word system call).1.devices := by
  cases call with
  | openFile | release | dataShow | statsShow | llseek => exact bounded
  | read file place count room interrupted =>
    simp only [step]
    split <;> exact bounded
  | write file place count source interrupted =>
    simp only [step]
    split
    · exact bounded
    · by_cases refused : ∀ minor, ¬ WriteAccepted (system.privateData file)
          (place.offset system.positions file) interrupted minor
      · obtain ⟨ret, unchanged, _⟩ := mydev_write_refused word system.devices _ source
          (min count maxRwCount) _ interrupted refused
        rw [unchanged]
        exact bounded
      · obtain ⟨minor, accepted⟩ := not_forall_not.mp refused
        rw [mydev_write_accepted word system.devices _ source _ _ interrupted minor
          (bounded minor) accepted]
        split
        · exact bounded_update _ _ _ bounded (bounded minor)
        · have inside := accepted.2.2
          exact bounded_update _ _ _ bounded (Nat.max_le.mpr ⟨bounded minor, by omega⟩)
  | dataStore minor input interrupted =>
    cases interrupted with
    | true => exact bounded
    | false =>
      have cut : (if bufSize < input.length then bufSize else input.length) ≤ bufSize := by
        split <;> omega
      exact bounded_update _ _ _ bounded cut
  | resetStore minor count interrupted =>
    cases interrupted with
    | true => exact bounded
    | false => exact bounded_update _ _ _ bounded (Nat.zero_le _)

/-- The contents fit their buffers in every run from loading. -/
theorem bounded_after (word : Word) (memory : Minor → Memory) (calls : List Call) :
    Bounded (Runs.after (step word) (loaded memory) calls).devices :=
  Runs.invariant_after (step word) (fun system => Bounded system.devices)
    (fun system call bounded => bounded_kept word system call bounded) (loaded memory) calls
    (fun _ => Nat.zero_le _)

end LddExamples.MultiMinorDevice
