import LddExamples.MultiReaderDevice
import LddExamples.Runs

/-!
# The readers and the writer of the multi-reader device

`012_multi_reader_wait/app.c` on the device that it is written for: two threads read once
each, and the main thread writes one message. Nothing protects the variables of the device, so
a step is an access to them: the test that ends a wait, the copy of a read, the load and the
store with which it counts itself, its comparison, and the two stores with which it takes the
message down; the copy of the write, its terminator, and its stores to the flag and to the
count. A wait that ends before the flag is up ends with a signal or after its time, and the read
returns at some later step.

A run begins on a device at rest, with the flag down and nothing counted, as loading leaves it
and as a run leaves it that loses no count. Opening and closing the device, and the labels of
what is printed, are left out.
-/

namespace LddExamples.MessageApp

open Runs ByteWindows KernelInterface StringBuffers MultiReaderDevice

/-- `BUFFER_SIZE`, the bytes of the buffer that a reader thread has on its stack. It asks the
device for one less, and has room for a zero byte. -/
def bufferSize : Nat := 256

/-- A string that the device can hold, and that is not empty: the argument of `writer_func`,
which writes as many bytes as `strlen` counts. -/
structure Message where
  bytes : List UInt8
  string : (0 : UInt8) ∉ bytes
  short : bytes.length ≤ 255
  nonempty : bytes ≠ []

/-- `Hello World` -/
def testMessage : Message :=
  ⟨[72, 101, 108, 108, 111, 32, 87, 111, 114, 108, 100], by decide, by decide, by decide⟩

/-- The two threads that `main` creates. -/
inductive Reader where
  | reader1
  | reader2
deriving DecidableEq

/-- Each reader knows the other one only through the count. -/
def Reader.other : Reader → Reader
  | .reader1 => .reader2
  | .reader2 => .reader1

/-- Where a reader is in its one read: before each of its accesses, with what it will return
and the count that it will store. One that fails has still to return its error. -/
inductive Stage where
  | waiting
  | failing (reply : Reply)
  | copying
  | counting (reply : Reply)
  | storing (reply : Reply) (count : Int)
  | comparing (reply : Reply)
  | clearingCount (reply : Reply)
  | clearingReady (reply : Reply)
  | returned (reply : Reply)

/-- How far the write has come: what it has stored last. -/
inductive Writing where
  | unwritten
  | copied
  | terminated
  | ready
  | returned
deriving DecidableEq

/-- The device and the three threads that use it. Nothing else of the threads is read by the
driver. -/
structure App where
  device : Device
  stage : Reader → Stage
  writing : Writing

/-- The next access of a reader or of the writer. A signal is looked at only where a wait ends
without the flag. -/
inductive Action where
  | read (reader : Reader) (signal : Bool)
  | write
deriving DecidableEq

/-- A reader goes on to another stage, and leaves the device as it is then. -/
def App.move (app : App) (device : Device) (reader : Reader) (stage : Stage) : App :=
  { app with device := device, stage := Function.update app.stage reader stage }

/-- The next access of a read. A wait tests the flag; one that ends without it has failed, and
so has a copy that does not reach the end of the message. -/
def readStep (device : Device) (signal : Bool) : Stage → Device × Stage
  | .waiting =>
      match waitEvent device signal with
      | some error => (device, .failing ⟨error, []⟩)
      | none => (device, .copying)
  | .failing reply => (device, .returned reply)
  | .copying =>
      let len := (cString device.data).length
      let (data, missing) := copyToUser (load device.data 0 len) (bufferSize - 1)
      if missing ≠ 0 then (device, .failing ⟨-efault, data⟩) else (device, .counting ⟨len, data⟩)
  | .counting reply => (device, .storing reply (device.readersCount + 1))
  | .storing reply count => ({ device with readersCount := count }, .comparing reply)
  | .comparing reply =>
      if totalReaders ≤ device.readersCount then (device, .clearingCount reply)
      else (device, .returned reply)
  | .clearingCount reply => ({ device with readersCount := 0 }, .clearingReady reply)
  | .clearingReady reply => ({ device with dataReady := 0 }, .returned reply)
  | .returned reply => (device, .returned reply)

/-- The next access of the write. The message is valid memory, and none of it is cut. -/
def writeStep (message : Message) (device : Device) : Writing → Device × Writing
  | .unwritten => ({ device with data := store device.data 0 message.bytes }, .copied)
  | .copied =>
      ({ device with data := store device.data message.bytes.length [0] }, .terminated)
  | .terminated => ({ device with dataReady := 1 }, .ready)
  | .ready => ({ device with readersCount := 0 }, .returned)
  | .returned => (device, .returned)

/-- One access of one thread. A thread that has returned stays where it is. -/
def step (message : Message) (app : App) : Action → App × Unit
  | .read reader signal =>
      let (device, stage) := readStep app.device signal (app.stage reader)
      (app.move device reader stage, ())
  | .write =>
      let (device, writing) := writeStep message app.device app.writing
      ({ app with device := device, writing := writing }, ())

/-- A device between two messages: the flag is down, and no read is counted. Its data are
whatever was written last. -/
structure Rest where
  device : Device
  ready : device.dataReady = 0
  count : device.readersCount = 0

/-- The device as loading leaves it is at rest. -/
def Rest.loaded : Rest := ⟨MultiReaderDevice.loaded, rfl, rfl⟩

/-- Both readers have called `read`, and the writer has not written. -/
def start (rest : Rest) : App := ⟨rest.device, fun _ => .waiting, .unwritten⟩

/-- What a reader prints after its read: the string in its buffer, once it has put a zero byte
behind what it has read. -/
def printed (reply : Reply) : Option (List UInt8) :=
  if 0 < reply.ret then
    some (stringIn bufferSize (store (store (fun _ => 0) 0 reply.data) reply.ret.toNat [0]))
  else none

/-- A read that returns the whole message. -/
def Message.whole (message : Message) : Reply := ⟨message.bytes.length, message.bytes⟩

/-- A wait that has ended without the flag. -/
def Failed (reply : Reply) : Prop := reply = ⟨-erestartsys, []⟩ ∨ reply = ⟨-etimedout, []⟩

/-- Whether the read has counted itself. -/
def Stage.stored : Stage → Int
  | .comparing _ | .clearingCount _ | .clearingReady _ => 1
  | .returned reply => if 0 ≤ reply.ret then 1 else 0
  | _ => 0

/-- The read has found that it is the last one, and takes the message down. -/
def Stage.clears : Stage → Bool
  | .clearingCount _ | .clearingReady _ => true
  | _ => false

/-- The read has set the count back, and has still to take the flag down. -/
def Stage.emptied : Stage → Bool
  | .clearingReady _ => true
  | _ => false

/-- The next access of the read compares the count with the number of readers. -/
def Stage.compares : Stage → Bool
  | .comparing _ => true
  | _ => false

/-- The count that the read will store. -/
def Stage.loadedCount : Stage → Option Int
  | .storing _ count => some count
  | _ => none

/-- What the read will return: the whole message once it has been let through, and the error of
its wait if it has not. -/
def Stage.Sound (message : Message) : Stage → Prop
  | .waiting | .copying => True
  | .failing reply => Failed reply
  | .returned reply => reply = message.whole ∨ Failed reply
  | .counting reply | .storing reply _ | .comparing reply | .clearingCount reply
  | .clearingReady reply => reply = message.whole

/-- The next access finds that all reads have been counted. -/
def finds (device : Device) (stage : Stage) : Prop :=
  stage.compares = true ∧ totalReaders ≤ device.readersCount

/-- Once the flag has been put up: the message is in the device, what the readers hold of it is
whole, and the count is never more than the readers that have stored one. The flag comes down
once a comparison has found two, which is the last that happens to it. -/
structure Published (message : Message) (found : Prop) (device : Device) (own other : Stage) :
    Prop where
  data : cString device.data = message.bytes
  ownSound : own.Sound message
  otherSound : other.Sound message
  low : 0 ≤ device.readersCount
  high : device.readersCount ≤ own.stored + other.stored
  ownCount : ∀ count, own.loadedCount = some count → 1 ≤ count ∧ count ≤ 1 + other.stored
  otherCount : ∀ count, other.loadedCount = some count → 1 ≤ count ∧ count ≤ 1 + own.stored
  clearing : own.clears = true ∨ other.clears = true → own.stored = 1 ∧ other.stored = 1
  flag : device.dataReady = 1 ∨ device.dataReady = 0 ∧ own.stored = 1 ∧ other.stored = 1
  marked : found ↔ own.clears = true ∨ other.clears = true ∨ device.dataReady = 0
  emptied : own.emptied = true ∨ other.emptied = true ∨ device.dataReady = 0 →
    device.readersCount = 0
  pending : 2 ≤ device.readersCount → found ∨ own.compares = true ∨ other.compares = true

/-- Both errors of a wait are negative, so that the thread prints no text for them. -/
theorem failed_negative (reply : Reply) (failed : Failed reply) : reply.ret < 0 := by
  rcases failed with rfl | rfl <;> decide

/-- The length of a message is no error. -/
theorem whole_nonneg (message : Message) : 0 ≤ message.whole.ret := Int.natCast_nonneg _

/-- A read that has returned the whole message has stored its count. -/
theorem stored_whole (message : Message) : (Stage.returned message.whole).stored = 1 := by
  simp only [Stage.stored, if_pos (whole_nonneg message)]

/-- A read that fails has stored none. -/
theorem stored_failed (reply : Reply) (failed : Failed reply) :
    (Stage.returned reply).stored = 0 :=
  if_neg (Int.not_le.mpr (failed_negative reply failed))

/-- The two readers may change places. -/
theorem published_symm (message : Message) (found : Prop) (device : Device) (own other : Stage)
    (published : Published message found device own other) :
    Published message found device other own := by
  refine ⟨published.data, published.otherSound, published.ownSound, published.low, ?_,
    published.otherCount, published.ownCount, fun clears => (published.clearing clears.symm).symm,
    ?_, ?_, ?_, ?_⟩
  · have high := published.high
    omega
  · exact published.flag.imp_right fun ⟨down, own, other⟩ => ⟨down, other, own⟩
  · rw [published.marked, or_left_comm]
  · exact fun empty => published.emptied (or_left_comm.mp empty)
  · exact fun full => (published.pending full).imp_right Or.symm

/-- The count is set back only by a read that takes the message down. -/
theorem emptied_clears (stage : Stage) (emptied : stage.emptied = true) : stage.clears = true := by
  cases stage with
  | clearingReady => rfl
  | waiting | failing | copying | counting | storing | comparing | clearingCount | returned =>
    cases emptied

/-- No more than one count is stored by a read. -/
theorem stored_range (stage : Stage) : 0 ≤ stage.stored ∧ stage.stored ≤ 1 := by
  cases stage with
  | returned reply =>
    simp only [Stage.stored]
    split <;> omega
  | waiting | failing | copying | counting | storing | comparing | clearingCount
  | clearingReady =>
    simp only [Stage.stored]
    omega

/-- A reader that goes on without an access to what the readers share. -/
theorem published_same (message : Message) (found : Prop) (device : Device)
    (own next other : Stage) (published : Published message found device own other)
    (sound : next.Sound message) (stored : next.stored = own.stored)
    (clears : next.clears = own.clears) (emptied : next.emptied = own.emptied)
    (compares : next.compares = own.compares)
    (count : ∀ count, next.loadedCount = some count → 1 ≤ count ∧ count ≤ 1 + other.stored) :
    Published message found device next other := by
  refine ⟨published.data, sound, published.otherSound, published.low, ?_, count, ?_, ?_, ?_, ?_, ?_,
    ?_⟩
  · rw [stored]
    exact published.high
  · rw [stored]
    exact published.otherCount
  · rw [clears, stored]
    exact published.clearing
  · rw [stored]
    exact published.flag
  · rw [clears]
    exact published.marked
  · rw [emptied]
    exact published.emptied
  · rw [compares]
    exact published.pending

/-- Where the message is in the device, a read copies the whole of it. -/
theorem copy_whole (message : Message) (device : Device) (signal : Bool)
    (data : cString device.data = message.bytes) :
    readStep device signal .copying = (device, .counting message.whole) := by
  have short := message.short
  have missing : message.bytes.length - (bufferSize - 1) = 0 := by
    simp only [bufferSize]
    omega
  have all : message.bytes.take (bufferSize - 1) = message.bytes :=
    List.take_of_length_le (by simp only [bufferSize]; omega)
  have loaded : load device.data 0 message.bytes.length = message.bytes := by
    rw [← data, load_cString]
  simp only [readStep, data, loaded, copyToUser, missing, all, ne_eq, not_true_eq_false, if_false,
    Message.whole]

/-- A published message passes every wait. -/
theorem published_passes (message : Message) (found : Prop) (device : Device) (other : Stage)
    (signal : Bool) (published : Published message found device .waiting other) :
    readStep device signal .waiting = (device, .copying) := by
  have up : device.dataReady = 1 := by
    rcases published.flag with up | ⟨_, stored, _⟩
    · exact up
    · exact absurd (show (0 : Int) = 1 from stored) (by decide)
  have passes : waitEvent device signal = none := by simp [waitEvent, up]
  simp only [readStep, passes]

/-- Only a comparison finds anything. -/
theorem finds_nothing (found : Prop) (device : Device) (stage : Stage)
    (none : stage.compares = false) : (found ∨ finds device stage) = found := by
  rw [finds, none]
  simp

section Accesses

variable (message : Message) (found : Prop) (device : Device) (reply : Reply) (other : Stage)

/-- The store of a count. Where it is still to be made, no comparison can have found two, so that
the flag is up and nothing has been taken down. -/
theorem published_storing (count : Int)
    (published : Published message found device (.storing reply count) other) :
    Published message found { device with readersCount := count } (.comparing reply) other := by
  have range := stored_range other
  obtain ⟨atLeast, atMost⟩ := published.ownCount count rfl
  have early (taken : other.clears = true ∨ device.dataReady = 0) : False := by
    have stored : (0 : Int) = 1 := by
      rcases taken with clears | down
      · exact (published.clearing (Or.inr clears)).1
      · rcases published.flag with up | ⟨_, stored, _⟩
        · omega
        · exact stored
    omega
  have unfound : ¬ found := fun now =>
    early ((published.marked.mp now).resolve_left Bool.false_ne_true)
  refine ⟨published.data, published.ownSound, published.otherSound,
    Int.le_trans (by decide) atLeast, atMost,
    fun _ impossible => (Option.some_ne_none _ impossible.symm).elim, ?_,
    fun clears => (early (Or.inl (clears.resolve_left Bool.false_ne_true))).elim, ?_,
    ⟨fun now => absurd now unfound, fun taken =>
      (early (taken.resolve_left Bool.false_ne_true)).elim⟩, ?_, fun _ => Or.inr (Or.inl rfl)⟩
  · intro later same
    obtain ⟨least, most⟩ : 1 ≤ later ∧ later ≤ 1 + 0 := published.otherCount later same
    exact ⟨least, by show later ≤ 1 + 1; omega⟩
  · exact Or.inl (published.flag.resolve_right fun taken => early (Or.inr taken.1))
  · rintro (impossible | emptied | down)
    · cases impossible
    · exact (early (Or.inl (emptied_clears other emptied))).elim
    · exact (early (Or.inr down)).elim

/-- A comparison that finds two. Both readers have stored their counts by then, since the count
is never more than those that have. -/
theorem published_finding (full : totalReaders ≤ device.readersCount)
    (published : Published message found device (.comparing reply) other) :
    Published message True device (.clearingCount reply) other := by
  have both : other.stored = 1 := by
    have range := stored_range other
    have high : device.readersCount ≤ 1 + other.stored := published.high
    have two : totalReaders = 2 := rfl
    omega
  refine ⟨published.data, published.ownSound, published.otherSound, published.low,
    published.high, by simp [Stage.loadedCount], published.otherCount, fun _ => ⟨rfl, both⟩,
    published.flag, by simp [Stage.clears], ?_, fun _ => Or.inl trivial⟩
  rintro (impossible | rest)
  · exact absurd impossible (by simp [Stage.emptied])
  · exact published.emptied (Or.inr rest)

/-- A comparison that finds fewer, after which the read returns the whole message. -/
theorem published_few (few : ¬ totalReaders ≤ device.readersCount)
    (published : Published message found device (.comparing reply) other) :
    Published message found device (.returned reply) other := by
  obtain rfl : reply = message.whole := published.ownSound
  have stored := stored_whole message
  refine ⟨published.data, Or.inl rfl, published.otherSound, published.low, ?_,
    by simp [Stage.loadedCount], ?_, ?_, ?_, published.marked, published.emptied, ?_⟩
  · rw [stored]
    exact published.high
  · rw [stored]
    exact published.otherCount
  · rw [stored]
    exact published.clearing
  · rw [stored]
    exact published.flag
  · exact fun two => absurd two few

/-- The first of the two stores that take the message down. -/
theorem published_emptying
    (published : Published message found device (.clearingCount reply) other) :
    Published message found { device with readersCount := 0 } (.clearingReady reply) other := by
  obtain ⟨_, both⟩ := published.clearing (Or.inl rfl)
  refine ⟨published.data, published.ownSound, published.otherSound, Int.le_refl 0, ?_,
    by simp [Stage.loadedCount], published.otherCount, fun _ => ⟨rfl, both⟩,
    published.flag, published.marked, fun _ => rfl, fun two =>
      absurd two (show ¬ (2 : Int) ≤ 0 by decide)⟩
  show (0 : Int) ≤ 1 + other.stored
  omega

/-- The second store, with which the flag comes down for good. -/
theorem published_down (published : Published message found device (.clearingReady reply) other) :
    Published message found { device with dataReady := 0 } (.returned reply) other := by
  obtain ⟨_, both⟩ := published.clearing (Or.inl rfl)
  obtain rfl : reply = message.whole := published.ownSound
  have stored := stored_whole message
  have empty : device.readersCount = 0 := published.emptied (Or.inl rfl)
  have found : found := published.marked.mpr (Or.inl rfl)
  refine ⟨published.data, Or.inl rfl, published.otherSound, published.low, ?_,
    by simp [Stage.loadedCount], ?_, fun _ => ⟨stored, both⟩, Or.inr ⟨rfl, stored, both⟩,
    iff_of_true found (Or.inr (Or.inr rfl)), fun _ => empty, fun _ => Or.inl found⟩
  · rw [stored]
    exact published.high
  · rw [stored]
    exact published.otherCount

end Accesses

/-- Every access of a read keeps what holds once the flag has been put up. -/
theorem published_read (message : Message) (found : Prop) (device : Device) (own other : Stage)
    (signal : Bool) (published : Published message found device own other) :
    Published message (found ∨ finds device own) (readStep device signal own).1
      (readStep device signal own).2 other := by
  cases own with
  | waiting =>
    rw [finds_nothing _ _ _ rfl, published_passes message found device other signal published]
    exact published_same message found device _ _ other published trivial rfl rfl rfl rfl
      (by simp [Stage.loadedCount])
  | failing reply =>
    have failed : Failed reply := published.ownSound
    rw [finds_nothing _ _ _ rfl]
    exact published_same message found device _ _ other published (Or.inr failed)
      (stored_failed reply failed) rfl rfl rfl (by simp [readStep, Stage.loadedCount])
  | copying =>
    rw [finds_nothing _ _ _ rfl, copy_whole message device signal published.data]
    exact published_same message found device _ _ other published rfl rfl rfl rfl rfl
      (by simp [Stage.loadedCount])
  | counting reply =>
    rw [finds_nothing _ _ _ rfl]
    refine published_same message found device _ _ other published published.ownSound rfl rfl rfl
      rfl ?_
    intro count same
    obtain rfl : device.readersCount + 1 = count := Option.some.inj same
    have low := published.low
    have high : device.readersCount ≤ 0 + other.stored := published.high
    omega
  | storing reply count =>
    rw [finds_nothing _ _ _ rfl]
    exact published_storing message found device reply other count published
  | comparing reply =>
    by_cases full : totalReaders ≤ device.readersCount
    · have now : (found ∨ finds device (.comparing reply)) = True := by
        simp [finds, Stage.compares, full]
      rw [now]
      simp only [readStep, if_pos full]
      exact published_finding message found device reply other full published
    · have few : (found ∨ finds device (.comparing reply)) = found := by
        simp [finds, full]
      rw [few]
      simp only [readStep, if_neg full]
      exact published_few message found device reply other full published
  | clearingCount reply =>
    rw [finds_nothing _ _ _ rfl]
    exact published_emptying message found device reply other published
  | clearingReady reply =>
    rw [finds_nothing _ _ _ rfl]
    exact published_down message found device reply other published
  | returned reply =>
    rw [finds_nothing _ _ _ rfl]
    exact published

/-- The count that the write takes back. -/
theorem published_reset (message : Message) (found : Prop) (device : Device) (own other : Stage)
    (published : Published message found device own other) :
    Published message found { device with readersCount := 0 } own other :=
  { published with
    low := Int.le_refl 0
    high := Int.add_nonneg (stored_range own).1 (stored_range other).1
    emptied := fun _ => rfl
    pending := fun two => absurd two (show ¬ (2 : Int) ≤ 0 by decide) }

@[simp] theorem move_device (app : App) (device : Device) (reader : Reader) (stage : Stage) :
    (app.move device reader stage).device = device := rfl

@[simp] theorem move_stage (app : App) (device : Device) (reader : Reader) (stage : Stage) :
    (app.move device reader stage).stage reader = stage := Function.update_self _ _ _

@[simp] theorem move_other (app : App) (device : Device) (reader : Reader) (stage : Stage) :
    (app.move device reader stage).stage reader.other = app.stage reader.other := by
  have different : reader.other ≠ reader := by
    cases reader with
    | reader1 | reader2 => decide
  exact Function.update_of_ne different _ _

@[simp] theorem move_move (app : App) (first second : Device) (reader : Reader)
    (stage next : Stage) :
    (app.move first reader stage).move second reader next = app.move second reader next := by
  simp only [App.move, Function.update_idem]

/-- A step of a reader that has just moved moves it on. -/
theorem step_move (message : Message) (app : App) (device : Device) (reader : Reader)
    (stage : Stage) (signal : Bool) :
    (step message (app.move device reader stage) (.read reader signal)).1 =
      app.move (readStep device signal stage).1 reader (readStep device signal stage).2 := by
  simp only [step, move_stage, move_device, move_move]

/-- The accesses of a read that nothing interrupts are the read of the device. -/
theorem read_alone (message : Message) (app : App) (reader : Reader) (signal : Bool)
    (waits : app.stage reader = .waiting) :
    after (step message) app (List.replicate 7 (.read reader signal)) =
      app.move (myRead app.device signal (bufferSize - 1)).1 reader
        (.returned (myRead app.device signal (bufferSize - 1)).2) := by
  have first : (step message app (.read reader signal)).1 =
      app.move (readStep app.device signal .waiting).1 reader
        (readStep app.device signal .waiting).2 := by
    simp only [step, waits]
  cases passes : waitEvent app.device signal with
  | some error =>
    simp only [List.replicate, after_cons, after_nil, first, step_move, readStep, passes, myRead]
  | none =>
    by_cases missing : (copyToUser (load app.device.data 0 (cString app.device.data).length)
        (bufferSize - 1)).2 = 0
    · by_cases full : totalReaders ≤ app.device.readersCount + 1
      · simp [after_cons, first, step_move, readStep, passes, myRead, readRest, missing, full]
      · simp [after_cons, first, step_move, readStep, passes, myRead, readRest, missing, full]
    · simp [after_cons, first, step_move, readStep, passes, myRead, readRest, missing]

/-- The accesses of a write that nothing interrupts are the write to the device. -/
theorem write_alone (message : Message) (app : App) (unwritten : app.writing = .unwritten) :
    after (step message) app (List.replicate 4 .write) =
      { app with
        device := (myWrite app.device (.ofBytes message.bytes) message.bytes.length).1
        writing := .returned } := by
  have len : (if 255 < message.bytes.length then 255 else message.bytes.length) =
      message.bytes.length := if_neg (Nat.not_lt.mpr message.short)
  simp only [List.replicate, after_cons, after_nil, step, unwritten, writeStep, myWrite, len,
    copyFromUser, UserSource.uncopied_ofBytes, UserSource.landed_ofBytes, List.take_length, ne_eq,
    not_true_eq_false, if_false]

/-- A reader is this one or the other. -/
theorem this_or_other (reader any : Reader) : any = reader ∨ any = reader.other := by
  cases reader with
  | reader1 | reader2 => cases any <;> simp [Reader.other]

/-- There are two readers. -/
theorem other_other (reader : Reader) : reader.other.other = reader := by
  cases reader with
  | reader1 | reader2 => rfl

/-- What holds of a reader and the other one, whichever comes first, holds of both. -/
theorem both_readers (Good : Stage → Stage → Prop)
    (symm : ∀ own other, Good own other → Good other own) (app : App) (reader : Reader)
    (good : Good (app.stage reader) (app.stage reader.other)) (any : Reader) :
    Good (app.stage any) (app.stage any.other) := by
  rcases this_or_other reader any with rfl | rfl
  · exact good
  · rw [other_other]
    exact symm _ _ good

/-- The write has put the flag up. -/
def Writing.published : Writing → Bool
  | .ready | .returned => true
  | _ => false

/-- What the write has done to the data so far. -/
def Message.Stored (message : Message) (data : Memory) : Writing → Prop
  | .unwritten => True
  | .copied => ∃ earlier, data = store earlier 0 message.bytes
  | _ => cString data = message.bytes

/-- Before the flag is up, only waits have ended, and nothing has been counted. -/
structure Unpublished (message : Message) (app : App) : Prop where
  ready : app.device.dataReady = 0
  count : app.device.readersCount = 0
  data : message.Stored app.device.data app.writing
  readers : ∀ reader, app.stage reader = .waiting ∨
    ∃ reply, Failed reply ∧
      (app.stage reader = .failing reply ∨ app.stage reader = .returned reply)

/-- A reader that has not been let through. -/
structure Stage.Idle (message : Message) (stage : Stage) : Prop where
  sound : stage.Sound message
  stored : stage.stored = 0
  clears : stage.clears = false
  compares : stage.compares = false
  loaded : stage.loadedCount = none

/-- Before the flag is up, no reader has been let through. -/
theorem unpublished_idle (message : Message) (app : App) (unpublished : Unpublished message app)
    (reader : Reader) : (app.stage reader).Idle message := by
  rcases unpublished.readers reader with waits | ⟨reply, failed, fails | returned⟩
  · rw [waits]
    exact ⟨trivial, rfl, rfl, rfl, rfl⟩
  · rw [fails]
    exact ⟨failed, rfl, rfl, rfl, rfl⟩
  · rw [returned]
    exact ⟨Or.inr failed, stored_failed reply failed, rfl, rfl, rfl⟩

/-- The store to the flag publishes the message. -/
theorem published_first (message : Message) (app : App) (unpublished : Unpublished message app)
    (stored : cString app.device.data = message.bytes) (reader : Reader) :
    Published message False { app.device with dataReady := 1 } (app.stage reader)
      (app.stage reader.other) := by
  have own := unpublished_idle message app unpublished reader
  have other := unpublished_idle message app unpublished reader.other
  have count : app.device.readersCount = 0 := unpublished.count
  refine ⟨stored, own.sound, other.sound, count.ge, ?_, ?_, ?_, ?_, Or.inl rfl, ?_, fun _ => count,
    ?_⟩
  · rw [own.stored, other.stored]
    exact count.le
  · simp [own.loaded]
  · simp [other.loaded]
  · simp [own.clears, other.clears]
  · simp [own.clears, other.clears]
  · intro two
    exact absurd (count ▸ two : (2 : Int) ≤ 0) (by decide)

/-- The event is a comparison that finds that both readers have been counted. -/
def Finds (event : Event App Action) : Prop :=
  match event.call with
  | .read reader _ => finds event.before.device (event.before.stage reader)
  | .write => False

/-- Some comparison of the run has found both readers. -/
def Found (history : List (Event App Action)) : Prop := ∃ event ∈ history, Finds event

/-- One more event may be the one that finds them. -/
theorem found_append_singleton (history : List (Event App Action)) (event : Event App Action) :
    Found (history ++ [event]) ↔ Found history ∨ Finds event := by
  simp only [Found, List.mem_append, List.mem_singleton, or_and_right, exists_or, exists_eq_left]

/-- What every run of the application keeps. -/
def Delivers (message : Message) (found : Prop) (app : App) : Prop :=
  if app.writing.published then
    ∀ reader, Published message found app.device (app.stage reader) (app.stage reader.other)
  else ¬ found ∧ Unpublished message app

/-- Before the flag is up, a read that goes on fails. -/
theorem read_unpublished (message : Message) (app : App) (unpublished : Unpublished message app)
    (reader : Reader) (signal : Bool) :
    ¬ finds app.device (app.stage reader) ∧
      Unpublished message (step message app (.read reader signal)).1 := by
  have idle := unpublished_idle message app unpublished reader
  refine ⟨fun found => Bool.false_ne_true (idle.compares.symm.trans found.1), ?_⟩
  have down := unpublished.ready
  obtain ⟨reply, stage, failed, moved, kind⟩ : ∃ reply stage, Failed reply ∧
      readStep app.device signal (app.stage reader) = (app.device, stage) ∧
        (stage = .failing reply ∨ stage = .returned reply) := by
    rcases unpublished.readers reader with waits | ⟨reply, failed, fails | returned⟩
    · rw [waits]
      cases signal with
      | true => exact ⟨_, _, Or.inl rfl, by simp [readStep, waitEvent, down], Or.inl rfl⟩
      | false => exact ⟨_, _, Or.inr rfl, by simp [readStep, waitEvent, down], Or.inl rfl⟩
    · exact ⟨reply, _, failed, by rw [fails]; rfl, Or.inr rfl⟩
    · exact ⟨reply, _, failed, by rw [returned]; rfl, Or.inr rfl⟩
  simp only [step, moved]
  refine ⟨down, unpublished.count, unpublished.data, fun any => ?_⟩
  rcases this_or_other reader any with rfl | rfl
  · rw [move_stage]
    exact Or.inr ⟨reply, failed, kind⟩
  · rw [move_other]
    exact unpublished.readers reader.other

/-- A step of the write, before the flag is up. -/
theorem write_unpublished (message : Message) (app : App) (unpublished : Unpublished message app)
    (down : app.writing.published = false) :
    Delivers message False (step message app .write).1 := by
  obtain ⟨device, stage, writing⟩ := app
  have fits : message.bytes.length < dataSize := Nat.lt_succ_of_le message.short
  cases writing with
  | ready | returned => cases down
  | unwritten =>
    exact ⟨id, unpublished.ready, unpublished.count, ⟨device.data, rfl⟩, unpublished.readers⟩
  | copied =>
    obtain ⟨earlier, copied⟩ := unpublished.data
    refine ⟨id, unpublished.ready, unpublished.count, ?_, unpublished.readers⟩
    show cString (store device.data message.bytes.length [0]) = message.bytes
    rw [copied, cString_string]
    exact (string_stored dataSize earlier message.bytes fits).trans
      ((before_zero_eq_self_iff _).mpr message.string)
  | terminated => exact published_first message _ unpublished unpublished.data

/-- Every step keeps what the application delivers. -/
theorem delivers_kept (message : Message) (history : List (Event App Action))
    (event : Event App Action) (delivers : Delivers message (Found history) event.before) :
    Delivers message (Found (history ++ [event])) (event.left (step message)) := by
  obtain ⟨app, action⟩ := event
  rw [found_append_singleton]
  cases up : app.writing.published with
  | false =>
    obtain ⟨unfound, unpublished⟩ : ¬ Found history ∧ Unpublished message app := by
      simpa [Delivers, up] using delivers
    cases action with
    | read reader signal =>
      obtain ⟨nothing, kept⟩ := read_unpublished message app unpublished reader signal
      have same : (step message app (.read reader signal)).1.writing = app.writing := rfl
      rw [Delivers, Event.left, same, up]
      exact ⟨not_or.mpr ⟨unfound, nothing⟩, kept⟩
    | write =>
      have none : (Found history ∨ Finds ⟨app, .write⟩) = False := by simp [unfound, Finds]
      rw [none]
      exact write_unpublished message app unpublished up
  | true =>
    have published : ∀ reader, Published message (Found history) app.device (app.stage reader)
        (app.stage reader.other) := by
      simpa [Delivers, up] using delivers
    cases action with
    | read reader signal =>
      have same : (step message app (.read reader signal)).1.writing = app.writing := rfl
      rw [Delivers, Event.left, same, up]
      refine both_readers _ (published_symm message _ _) _ reader ?_
      have kept : Published message (Found history ∨ Finds ⟨app, .read reader signal⟩) _ _ _ :=
        published_read message _ _ _ _ signal (published reader)
      simpa only [step, move_stage, move_other, move_device] using kept
    | write =>
      have none : (Found history ∨ Finds ⟨app, .write⟩) = Found history := by simp [Finds]
      rw [none]
      obtain ⟨device, stage, writing⟩ := app
      cases writing with
      | unwritten | copied | terminated => cases up
      | returned => exact published
      | ready => exact fun reader => published_reset message _ _ _ _ (published reader)

/-- In every state of a run, the application delivers. -/
theorem run_delivers (message : Message) (rest : Rest) (actions : List Action) :
    Delivers message (Found (trace (step message) (start rest) actions))
      (after (step message) (start rest) actions) := by
  have throughout := history_along (step message)
    (fun history app => Delivers message (Found history) app) (fun _ _ => True)
    (fun history event delivers _ => delivers_kept message history event delivers) (start rest)
    actions ⟨by simp [Found], rest.ready, rest.count, trivial, fun _ => Or.inl rfl⟩
    (fun _ _ _ => trivial)
  exact throughout actions List.prefix_rfl

/-- A reader that has returned has the whole message, or its wait has failed. -/
theorem delivers_sound (message : Message) (found : Prop) (app : App)
    (delivers : Delivers message found app) (reader : Reader) :
    (app.stage reader).Sound message := by
  cases up : app.writing.published with
  | true =>
    simp only [Delivers, up, if_true] at delivers
    exact (delivers reader).ownSound
  | false =>
    simp only [Delivers, up, Bool.false_eq_true, if_false] at delivers
    exact (unpublished_idle message app delivers.2 reader).sound

/-- What a reader prints is the message, or nothing. -/
theorem printed_whole (message : Message) : printed message.whole = some message.bytes := by
  have length : 0 < message.bytes.length := List.length_pos_iff.mpr message.nonempty
  have positive : 0 < message.whole.ret := by
    simp only [Message.whole]
    omega
  have fits : message.bytes.length < bufferSize := Nat.lt_succ_of_le message.short
  rw [printed, if_pos positive]
  exact congrArg some ((string_stored bufferSize _ message.bytes fits).trans
    ((before_zero_eq_self_iff _).mpr message.string))

/-- A thread whose read fails prints no text. -/
theorem printed_failed (reply : Reply) (failed : Failed reply) : printed reply = none :=
  if_neg (Int.not_lt.mpr (Int.le_of_lt (failed_negative reply failed)))

/-- What the read has come to, though it may still have to return it. -/
def Stage.outcome : Stage → Option Reply
  | .failing reply | .returned reply => some reply
  | _ => none

/-- Once the message is published, no access of a read fails it. -/
theorem read_succeeds (message : Message) (found : Prop) (device : Device) (own other : Stage)
    (signal : Bool) (published : Published message found device own other)
    (whole : ∀ reply, own.outcome = some reply → reply = message.whole) (reply : Reply)
    (ended : (readStep device signal own).2.outcome = some reply) : reply = message.whole := by
  cases own with
  | waiting =>
    rw [published_passes message found device other signal published] at ended
    cases ended
  | copying =>
    rw [copy_whole message device signal published.data] at ended
    cases ended
  | counting | storing | clearingCount => cases ended
  | comparing earlier =>
    obtain rfl : earlier = message.whole := published.ownSound
    simp only [readStep] at ended
    split at ended
    · cases ended
    · exact (Option.some.inj ended).symm
  | clearingReady earlier =>
    obtain rfl : earlier = message.whole := published.ownSound
    exact (Option.some.inj ended).symm
  | failing earlier | returned earlier => exact whole reply ended

/-- The flag stays published, and a reader whose wait has not failed does not fail any more. -/
def Served (message : Message) (reader : Reader) (app : App) : Prop :=
  app.writing.published = true ∧
    ∀ reply, (app.stage reader).outcome = some reply → reply = message.whole

/-- No step of any thread makes a reader fail that is served. -/
theorem served_kept (message : Message) (found : Prop) (app : App) (action : Action)
    (reader : Reader) (delivers : Delivers message found app) (served : Served message reader app) :
    Served message reader (step message app action).1 := by
  obtain ⟨up, whole⟩ := served
  simp only [Delivers, up, if_true] at delivers
  cases action with
  | write =>
    refine ⟨?_, whole⟩
    obtain ⟨device, stage, writing⟩ := app
    cases writing with
    | unwritten | copied | terminated => cases up
    | ready | returned => rfl
  | read mover signal =>
    refine ⟨up, fun reply ended => ?_⟩
    rcases this_or_other mover reader with rfl | rfl
    · simp only [step, move_stage] at ended
      exact read_succeeds message found _ _ _ signal (delivers reader) whole reply ended
    · simp only [step, move_other] at ended
      exact whole reply ended

/-- A reader whose wait has not failed when the message is published gets it. -/
theorem late_reader_succeeds (message : Message) (rest : Rest) (actions more : List Action)
    (reader : Reader) (served : Served message reader (after (step message) (start rest) actions)) :
    Served message reader (after (step message) (start rest) (actions ++ more)) := by
  induction more using List.reverseRecOn with
  | nil => rwa [List.append_nil]
  | append_singleton earlier action inductionHypothesis =>
    rw [← List.append_assoc, after_append_singleton]
    exact served_kept message _ _ action reader (run_delivers message rest _) inductionHypothesis

/-- The accesses that a read still has to make. -/
def Stage.remaining : Stage → Nat
  | .waiting => 7
  | .failing _ => 1
  | .copying => 6
  | .counting _ => 5
  | .storing _ _ => 4
  | .comparing _ => 3
  | .clearingCount _ => 2
  | .clearingReady _ => 1
  | .returned _ => 0

/-- A read makes seven accesses at most. -/
theorem remaining_le (stage : Stage) : stage.remaining ≤ 7 := by
  cases stage <;> simp [Stage.remaining]

/-- A read that has no access left has returned. -/
theorem returned_of_remaining (stage : Stage) (none : stage.remaining = 0) :
    ∃ reply, stage = .returned reply := by
  cases stage with
  | returned reply => exact ⟨reply, rfl⟩
  | waiting | failing | copying | counting | storing | comparing | clearingCount
  | clearingReady => cases none

/-- Every access of a read is one less to make: a read does not go round in its code. -/
theorem read_remaining (device : Device) (signal : Bool) (stage : Stage) :
    (readStep device signal stage).2.remaining ≤ stage.remaining - 1 := by
  cases stage with
  | waiting =>
    simp only [readStep]
    cases waitEvent device signal <;> simp [Stage.remaining]
  | copying =>
    simp only [readStep]
    split <;> simp [Stage.remaining]
  | comparing reply =>
    simp only [readStep]
    split <;> simp [Stage.remaining]
  | failing | counting | storing | clearingCount | clearingReady | returned =>
    simp [readStep, Stage.remaining]

/-- A reader that goes on alone comes closer to its return, and leaves the other one where it
is. -/
theorem reader_goes_on (message : Message) (app : App) (reader : Reader) (count : Nat) :
    let final := after (step message) app (List.replicate count (.read reader false))
    (final.stage reader).remaining ≤ (app.stage reader).remaining - count ∧
      final.stage reader.other = app.stage reader.other := by
  induction count generalizing app with
  | zero => exact ⟨Nat.le_refl _, rfl⟩
  | succ count inductionHypothesis =>
    obtain ⟨remaining, other⟩ := inductionHypothesis (step message app (.read reader false)).1
    have fewer := read_remaining app.device false (app.stage reader)
    simp only [step, move_stage, move_other] at remaining other
    simp only [List.replicate_succ, after_cons, step]
    refine ⟨?_, other⟩
    omega

/-- A reader that goes on alone returns. -/
theorem reader_returns (message : Message) (app : App) (reader : Reader) :
    (∃ reply, (after (step message) app (List.replicate 7 (.read reader false))).stage reader =
        .returned reply) ∧
      (after (step message) app (List.replicate 7 (.read reader false))).stage reader.other =
        app.stage reader.other := by
  obtain ⟨remaining, other⟩ := reader_goes_on message app reader 7
  have most := remaining_le (app.stage reader)
  exact ⟨returned_of_remaining _ (by omega), other⟩

/-- For every message, every device at rest and every order of the accesses: a reader that has
returned has printed exactly the message, or its wait has failed and it has printed nothing; once
the flag is up, no reader fails whose wait has not ended; and both readers can always return. -/
theorem readers_get_message (message : Message) (rest : Rest) (actions : List Action) :
    let final := after (step message) (start rest) actions
    (∀ reader reply, final.stage reader = .returned reply →
        (reply = message.whole ∧ printed reply = some message.bytes) ∨
          (Failed reply ∧ printed reply = none)) ∧
      (final.writing.published = true → ∀ reader, (final.stage reader).outcome = none →
        ∀ more reply, (after (step message) final more).stage reader = .returned reply →
          reply = message.whole) ∧
      ∃ more, ∀ reader, ∃ reply,
        (after (step message) final more).stage reader = .returned reply := by
  intro final
  have delivers := run_delivers message rest actions
  refine ⟨fun reader reply returned => ?_, fun up reader early more reply returned => ?_, ?_⟩
  · have sound := delivers_sound message _ final delivers reader
    rw [returned] at sound
    rcases sound with rfl | failed
    · exact Or.inl ⟨rfl, printed_whole message⟩
    · exact Or.inr ⟨failed, printed_failed reply failed⟩
  · have served := late_reader_succeeds message rest actions more reader
      ⟨up, fun reply ended => absurd (early.symm.trans ended) (by simp)⟩
    rw [after_append] at served
    exact served.2 reply (by rw [returned]; rfl)
  · refine ⟨List.replicate 7 (.read .reader1 false) ++ List.replicate 7 (.read .reader2 false),
      fun reader => ?_⟩
    rw [after_append]
    have first := (reader_returns message final .reader1).1
    generalize after (step message) final (List.replicate 7 (.read .reader1 false)) = between
      at first ⊢
    obtain ⟨second, kept⟩ := reader_returns message between .reader2
    have other : Reader.reader2.other = .reader1 := rfl
    cases reader with
    | reader1 =>
      rw [other] at kept
      rwa [kept]
    | reader2 => exact second

end LddExamples.MessageApp
