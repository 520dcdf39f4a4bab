import LddExamples.Runs
import LddExamples.KernelInterface

/-!
# The polled dual device

`014_poll_select/poll.c`: for each of two minors a buffer of 128 bytes, the length
of the message in it and an event flag. A write replaces the message, sets the
flag and moves its own position to the start; a read that leaves its position at
or past the end of the message clears the flag and the length.

A read that finds the flag clear fails at once on a non-blocking file. On any
other it waits, and goes on when the flag is set or a signal arrives: the result
of the wait is not looked at. The handlers take no lock; each is one step here,
and the wait is where a read is split in two. The wait queues hold no data that a
handler reads, and are left out with the kernel log.
-/

namespace LddExamples.DualPoll

open ByteWindows KernelInterface

/-- `DEVICE_CNT`, the number of devices. -/
abbrev deviceCnt : Nat := 2

/-- `BUF_SIZE`, the bytes of a device's buffer. -/
def bufSize : Nat := 128

/-- A device of the driver, by its number. -/
abbrev Minor := Fin deviceCnt

/-- The first of the two devices. -/
def firstMinor : Minor := ⟨0, by decide⟩

/-- What the driver's arrays hold for one minor. -/
structure Device where
  eventFlag : Bool
  buffer : Memory
  bufferSize : Nat

/-- `POLLIN` -/
def pollIn : Nat := 0x1

/-- `POLLRDNORM` -/
def pollRdNorm : Nat := 0x40

/-- A poll reports input exactly while the device has an event. Whether the file has
anything left to read is not looked at. -/
def myPoll (device : Device) : Nat := if device.eventFlag then pollIn ||| pollRdNorm else 0

/-- The rest of a read, after the test of the event flag and the wait. -/
def myReadRest (device : Device) (len room pos : Nat) : Device × Served :=
  let served := simpleReadFromBuffer device.buffer device.bufferSize pos len room
  (if device.bufferSize ≤ served.offset then { device with eventFlag := false, bufferSize := 0 }
    else device, served)

/-- How a read begins: it goes on, fails at once, or waits. -/
inductive Entry where
  | ready
  | again
  | wait
deriving DecidableEq

/-- What a read finds at its start: an event, or none, and then a non-blocking file gets an
error and any other has to wait. -/
def myReadEntry (device : Device) (nonblock : Bool) : Entry :=
  if device.eventFlag then .ready else if nonblock then .again else .wait

/-- A read as one step. A wait that no signal ends returns nothing: in this step
the flag stays clear. -/
def myRead (device : Device) (nonblock signalled : Bool) (len room pos : Nat) :
    Device × Option Served :=
  match myReadEntry device nonblock, signalled with
  | .again, _ => (device, some ⟨-eagain, pos, []⟩)
  | .wait, false => (device, none)
  | .ready, _ | .wait, true =>
      let (device, served) := myReadRest device len room pos
      (device, some served)

/-- A write puts its bytes at the start of the buffer, whatever the position, raises the
event and takes the position back to zero. A copy that fails leaves the event, the length
and the position, and the bytes that it has stored. -/
def myWrite (device : Device) (source : UserSource) (len pos : Nat) : Stored Device :=
  let len := if bufSize < len then bufSize else len
  let (buffer, missing) := copyFromUser device.buffer 0 source len
  if missing ≠ 0 then ⟨{ device with buffer := buffer }, -efault, pos⟩
  else ⟨⟨true, buffer, len⟩, len, 0⟩

/-- The open files: the minor that each is opened on, and whether it blocks. Both
are fixed when a file is opened. -/
structure Files where
  minor : Nat → Minor
  nonblock : Nat → Bool

/-- The devices and the positions of the open files. -/
structure System where
  devices : Minor → Device
  positions : Positions

/-- The calls on open files. A read carries whether a signal ends its wait, should it have
to wait. -/
inductive Call where
  | poll (file : Nat)
  | read (file : Nat) (place : Place) (len room : Nat) (signalled : Bool)
  | write (file : Nat) (place : Place) (len : Nat) (source : UserSource)
  | seek (file position : Nat)

/-- One call, and its reply unless it waits. -/
def step (files : Files) (system : System) : Call → System × Option Reply
  | .poll file => (system, some ⟨myPoll (system.devices (files.minor file)), []⟩)
  | .read file place len room signalled =>
      let minor := files.minor file
      let offset := place.offset system.positions file
      if loffLimit ≤ offset then (system, some ⟨-einval, []⟩)
      else
        match myRead (system.devices minor) (files.nonblock file) signalled (min len maxRwCount)
            room offset with
        | (_, none) => (system, none)
        | (device, some served) =>
            (⟨Function.update system.devices minor device,
              place.commit system.positions file served.offset⟩,
              some ⟨served.ret, served.data⟩)
  | .write file place len source =>
      let minor := files.minor file
      let offset := place.offset system.positions file
      if loffLimit ≤ offset then (system, some ⟨-einval, []⟩)
      else
        let stored := myWrite (system.devices minor) source (min len maxRwCount) offset
        (⟨Function.update system.devices minor stored.state,
          place.commit system.positions file stored.offset⟩, some ⟨stored.ret, []⟩)
  | .seek file position =>
      if loffLimit ≤ position then (system, some ⟨-einval, []⟩)
      else
        ({ system with positions := Function.update system.positions file position },
          some ⟨position, []⟩)

/-- The loaded driver: static storage is zero, and every file starts at zero. -/
def loaded : System := ⟨fun _ => ⟨false, fun _ => 0, 0⟩, fun _ => 0⟩

/-- A device whose message has been read to its end. -/
def Device.consumed (device : Device) : Device :=
  { device with eventFlag := false, bufferSize := 0 }

/-- The rest of a read leaves the device as it is, or consumes a message that
ends at or before the offset it leaves. -/
theorem read_rest_cases (device : Device) (len room pos : Nat) :
    ((myReadRest device len room pos).1 = device ∧
        (myReadRest device len room pos).2.offset < device.bufferSize) ∨
      ((myReadRest device len room pos).1 = device.consumed ∧
        device.bufferSize ≤ (myReadRest device len room pos).2.offset) := by
  by_cases ended : device.bufferSize ≤
      (simpleReadFromBuffer device.buffer device.bufferSize pos len room).offset
  · exact Or.inr ⟨if_pos ended, ended⟩
  · exact Or.inl ⟨if_neg ended, Nat.lt_of_not_le ended⟩

/-- How a read goes: it fails at once, waits, or runs its rest. -/
theorem my_read_cases (device : Device) (nonblock signalled : Bool) (len room pos : Nat) :
    (device.eventFlag = false ∧ nonblock = true ∧
        myRead device nonblock signalled len room pos = (device, some ⟨-eagain, pos, []⟩)) ∨
      (device.eventFlag = false ∧ nonblock = false ∧ signalled = false ∧
        myRead device nonblock signalled len room pos = (device, none)) ∨
      ((device.eventFlag = true ∨ signalled = true) ∧
        myRead device nonblock signalled len room pos =
          ((myReadRest device len room pos).1, some (myReadRest device len room pos).2)) := by
  cases flag : device.eventFlag with
  | true => exact Or.inr (Or.inr ⟨Or.inl rfl, by simp [myRead, myReadEntry, flag]⟩)
  | false =>
    cases nonblock with
    | true => exact Or.inl ⟨rfl, rfl, by simp [myRead, myReadEntry, flag]⟩
    | false =>
      cases signalled with
      | true => exact Or.inr (Or.inr ⟨Or.inr rfl, by simp [myRead, myReadEntry, flag]⟩)
      | false => exact Or.inr (Or.inl ⟨rfl, rfl, rfl, by simp [myRead, myReadEntry, flag]⟩)

/-- A write whose copy is complete replaces the message and sets the flag. -/
theorem my_write_complete (device : Device) (source : UserSource) (len pos : Nat)
    (complete : source.uncopied (min len bufSize) = 0) :
    myWrite device source len pos =
      ⟨⟨true, store device.buffer 0 (source.landed (min len bufSize)), min len bufSize⟩,
        (min len bufSize : Nat), 0⟩ := by
  have clamp : (if bufSize < len then bufSize else len) = min len bufSize := by split <;> omega
  simp only [myWrite, clamp, copyFromUser, complete, ne_eq, not_true_eq_false, if_false]

/-- A write whose copy faults fails. It leaves the flag, the length and its
offset, and in the buffer what the copy has stored. -/
theorem my_write_failed (device : Device) (source : UserSource) (len pos : Nat)
    (failed : source.uncopied (min len bufSize) ≠ 0) :
    myWrite device source len pos =
      ⟨{ device with buffer := store device.buffer 0 (source.landed (min len bufSize)) },
        -efault, pos⟩ := by
  have clamp : (if bufSize < len then bufSize else len) = min len bufSize := by split <;> omega
  simp only [myWrite, clamp, copyFromUser, ne_eq, failed, not_false_eq_true, if_true]

/-- Without an event there is no message, and a message fits the buffer. -/
structure Coherent (device : Device) : Prop where
  quiet : device.eventFlag = false → device.bufferSize = 0
  fits : device.bufferSize ≤ bufSize

/-- A consumed device is coherent. -/
theorem coherent_consumed (device : Device) : Coherent device.consumed :=
  ⟨fun _ => rfl, Nat.zero_le _⟩

/-- The rest of a read keeps its device coherent. -/
theorem coherent_rest (device : Device) (len room pos : Nat) (coherent : Coherent device) :
    Coherent (myReadRest device len room pos).1 := by
  rcases read_rest_cases device len room pos with ⟨same, _⟩ | ⟨consumed, _⟩
  · rw [same]
    exact coherent
  · rw [consumed]
    exact coherent_consumed device

/-- What holds of every device still does when one is replaced by another of
which it holds. -/
theorem devices_update (Holds : Device → Prop) (devices : Minor → Device) (minor : Minor)
    (device : Device) (all : ∀ minor, Holds (devices minor)) (one : Holds device) (other : Minor) :
    Holds (Function.update devices minor device other) := by
  by_cases same : other = minor
  · rw [same, Function.update_self]
    exact one
  · rw [Function.update_of_ne same]
    exact all other

/-- Every device is coherent, and every file's position is one that a `loff_t` can
hold. -/
structure Wellformed (system : System) : Prop where
  coherent : ∀ minor, Coherent (system.devices minor)
  placed : ∀ file, system.positions file < loffLimit

/-- Committing an admitted offset keeps every position admitted. -/
theorem commit_placed (place : Place) (positions : Positions) (file offset : Nat)
    (placed : ∀ other, positions other < loffLimit) (admitted : offset < loffLimit) (other : Nat) :
    place.commit positions file offset other < loffLimit := by
  by_cases same : other = file
  · cases place with
    | current => simpa only [same, Place.commit, Function.update_self] using admitted
    | fixed position => exact placed other
  · rw [place.commit_other positions file offset other same]
    exact placed other

/-- A read from an admitted offset of a coherent device leaves an admitted one. -/
theorem read_rest_placed (device : Device) (len room pos : Nat) (coherent : Coherent device)
    (admitted : pos < loffLimit) : (myReadRest device len room pos).2.offset < loffLimit := by
  have reached := (simple_read_offset device.buffer device.bufferSize pos len room).2
  have fits : device.bufferSize < loffLimit := Nat.lt_of_le_of_lt coherent.fits (by decide)
  exact Nat.lt_of_le_of_lt reached (Nat.max_lt.mpr ⟨admitted, fits⟩)

/-- What a read call does: nothing, or the rest of the read from an admitted offset,
when the flag is set or a signal has ended the wait. -/
theorem read_call_cases (files : Files) (system : System) (file : Nat) (place : Place)
    (len room : Nat) (signalled : Bool) :
    (step files system (.read file place len room signalled)).1 = system ∨
      (((system.devices (files.minor file)).eventFlag = true ∨ signalled = true) ∧
        place.offset system.positions file < loffLimit ∧
        (step files system (.read file place len room signalled)).1 =
          ⟨Function.update system.devices (files.minor file)
            (myReadRest (system.devices (files.minor file)) (min len maxRwCount) room
              (place.offset system.positions file)).1,
            place.commit system.positions file
              (myReadRest (system.devices (files.minor file)) (min len maxRwCount) room
                (place.offset system.positions file)).2.offset⟩) := by
  by_cases refused : loffLimit ≤ place.offset system.positions file
  · exact Or.inl (by simp only [step, if_pos refused])
  · rcases my_read_cases (system.devices (files.minor file)) (files.nonblock file) signalled
        (min len maxRwCount) room (place.offset system.positions file) with
      ⟨_, _, again⟩ | ⟨_, _, _, waits⟩ | ⟨released, goesOn⟩
    · refine Or.inl ?_
      simp only [step, if_neg refused, again, Function.update_eq_self, Place.commit_offset]
    · exact Or.inl (by simp only [step, if_neg refused, waits])
    · exact Or.inr ⟨released, Nat.lt_of_not_le refused, by
        simp only [step, if_neg refused, goesOn]⟩

/-- A read call that finds the flag set runs the rest of the read and answers. -/
theorem read_call_ready (files : Files) (system : System) (file : Nat) (place : Place)
    (len room : Nat) (signalled : Bool)
    (flag : (system.devices (files.minor file)).eventFlag = true)
    (admitted : place.offset system.positions file < loffLimit) :
    step files system (.read file place len room signalled) =
      (⟨Function.update system.devices (files.minor file)
          (myReadRest (system.devices (files.minor file)) (min len maxRwCount) room
            (place.offset system.positions file)).1,
        place.commit system.positions file
          (myReadRest (system.devices (files.minor file)) (min len maxRwCount) room
            (place.offset system.positions file)).2.offset⟩,
        some ⟨(myReadRest (system.devices (files.minor file)) (min len maxRwCount) room
          (place.offset system.positions file)).2.ret,
          (myReadRest (system.devices (files.minor file)) (min len maxRwCount) room
            (place.offset system.positions file)).2.data⟩) := by
  simp only [step, if_neg (Nat.not_le_of_lt admitted), myRead, myReadEntry, flag, if_true]

/-- A write call delivers a message: its position is admitted and its copy, which
is cut to the buffer, is complete. -/
def Delivers (system : System) (file : Nat) (place : Place) (len : Nat) (source : UserSource) :
    Prop :=
  place.offset system.positions file < loffLimit ∧
    source.uncopied (min (min len maxRwCount) bufSize) = 0

/-- What a write call that delivers does. -/
theorem write_call_delivers (files : Files) (system : System) (file : Nat) (place : Place)
    (len : Nat) (source : UserSource) (delivers : Delivers system file place len source) :
    step files system (.write file place len source) =
      (⟨Function.update system.devices (files.minor file)
          ⟨true, store (system.devices (files.minor file)).buffer 0
            (source.landed (min (min len maxRwCount) bufSize)), min (min len maxRwCount) bufSize⟩,
        place.commit system.positions file 0⟩,
        some ⟨(min (min len maxRwCount) bufSize : Nat), []⟩) := by
  obtain ⟨admitted, complete⟩ := delivers
  simp only [step, if_neg (Nat.not_le_of_lt admitted), my_write_complete _ _ _ _ complete]

/-- A write call that does not deliver fails, and changes at most a buffer. -/
theorem write_call_fails (files : Files) (system : System) (file : Nat) (place : Place)
    (len : Nat) (source : UserSource) (fails : ¬ Delivers system file place len source) :
    ∃ buffer ret, step files system (.write file place len source) =
      ({ system with
          devices := Function.update system.devices (files.minor file)
            { system.devices (files.minor file) with buffer := buffer } },
        some ⟨ret, []⟩) ∧ ret < 0 := by
  by_cases refused : loffLimit ≤ place.offset system.positions file
  · refine ⟨(system.devices (files.minor file)).buffer, -einval, ?_, by decide⟩
    simp only [step, if_pos refused, Function.update_eq_self]
  · have faults : source.uncopied (min (min len maxRwCount) bufSize) ≠ 0 :=
      fun complete => fails ⟨Nat.lt_of_not_le refused, complete⟩
    refine ⟨store (system.devices (files.minor file)).buffer 0
      (source.landed (min (min len maxRwCount) bufSize)), -efault, ?_, by decide⟩
    simp only [step, if_neg refused, my_write_failed _ _ _ _ faults, Place.commit_offset]

/-- Every call keeps the system well formed. -/
theorem wellformed_kept (files : Files) (system : System) (call : Call)
    (wellformed : Wellformed system) : Wellformed (step files system call).1 := by
  cases call with
  | poll file => exact wellformed
  | seek file position =>
    simp only [step]
    split
    · exact wellformed
    · rename_i admitted
      exact ⟨wellformed.coherent, commit_placed .current _ _ _ wellformed.placed
        (Nat.lt_of_not_le admitted)⟩
  | write file place len source =>
    by_cases delivers : Delivers system file place len source
    · rw [write_call_delivers files system file place len source delivers]
      exact ⟨devices_update Coherent _ _ _ wellformed.coherent
        ⟨fun clear => Bool.noConfusion clear, Nat.min_le_right _ _⟩,
        commit_placed place _ _ _ wellformed.placed start_admitted⟩
    · obtain ⟨buffer, ret, same, _⟩ := write_call_fails files system file place len source delivers
      rw [same]
      have coherent := wellformed.coherent (files.minor file)
      exact ⟨devices_update Coherent _ _ _ wellformed.coherent ⟨coherent.quiet, coherent.fits⟩,
        wellformed.placed⟩
  | read file place len room signalled =>
    rcases read_call_cases files system file place len room signalled with
      same | ⟨_, admitted, left⟩
    · rw [same]
      exact wellformed
    · rw [left]
      have coherent := wellformed.coherent (files.minor file)
      refine ⟨devices_update Coherent _ _ _ wellformed.coherent
        (coherent_rest _ _ _ _ coherent), ?_⟩
      exact commit_placed place _ _ _ wellformed.placed
        (read_rest_placed _ _ _ _ coherent admitted)

/-- The system is well formed in every run from loading. -/
theorem wellformed_after (files : Files) (calls : List Call) :
    Wellformed (Runs.after (step files) loaded calls) :=
  Runs.invariant_after (step files) Wellformed (wellformed_kept files) loaded calls
    ⟨fun _ => ⟨fun _ => rfl, Nat.zero_le _⟩, fun _ => start_admitted⟩

end LddExamples.DualPoll
