import LddExamples.DualPoll

/-!
# Blocking reads of the polled device

A read that finds no event waits, is released when the event flag is seen set or
a signal arrives, and later runs its rest. Between the release and the rest the
flag may be cleared by another read, and after a signal it may never have been
set: the rest of the read does not look at it again.

Here each of these is a step of its own, interleaved with the steps of other
readers, with writes of messages that are not empty, and with signals. A reader
is a read call in flight; several may share a file. As in the kernel, the
position is fetched when the call starts and stored when it ends.
-/

namespace LddExamples.BlockingReads

open Runs ByteWindows KernelInterface DualPoll

/-- A read call that has started: its file and place, the position it has fetched,
and its length as the caller has cut it. -/
structure ReadCall where
  file : Nat
  place : Place
  pos : Nat
  len : Nat
  room : Nat

/-- A reader is in no read, in the wait of one, or past its wait. -/
inductive Phase where
  | idle
  | waiting (read : ReadCall)
  | released (read : ReadCall)

/-- The devices and files, and where every reader stands. -/
structure State where
  system : System
  phase : Nat → Phase

/-- The state with a reader in another phase. -/
def State.setPhase (state : State) (reader : Nat) (phase : Phase) : State :=
  { state with phase := Function.update state.phase reader phase }

/-- The parts of the reads, and whole writes. -/
inductive Action where
  | enter (reader file : Nat) (place : Place) (len room : Nat)
  | wake (reader : Nat)
  | signal (reader : Nat)
  | finish (reader : Nat)
  | write (file : Nat) (place : Place) (len : Nat) (source : UserSource)

instance (system : System) (file : Nat) (place : Place) (len : Nat) (source : UserSource) :
    Decidable (Delivers system file place len source) :=
  inferInstanceAs (Decidable (_ ∧ _))

/-- One step. A step that its reader's phase does not enable changes nothing, and
so does a write that is empty or fails. -/
def step (files : Files) (state : State) : Action → State × Option Reply
  | .enter reader file place len room =>
      let pos := place.offset state.system.positions file
      match state.phase reader with
      | .idle =>
          if loffLimit ≤ pos then (state, some ⟨-einval, []⟩)
          else
            let read : ReadCall := ⟨file, place, pos, min len maxRwCount, room⟩
            match myReadEntry (state.system.devices (files.minor file)) (files.nonblock file) with
            | .ready => (state.setPhase reader (.released read), none)
            | .again => (state, some ⟨-eagain, []⟩)
            | .wait => (state.setPhase reader (.waiting read), none)
      | _ => (state, none)
  | .wake reader =>
      match state.phase reader with
      | .waiting read =>
          if (state.system.devices (files.minor read.file)).eventFlag then
            (state.setPhase reader (.released read), none)
          else (state, none)
      | _ => (state, none)
  | .signal reader =>
      match state.phase reader with
      | .waiting read => (state.setPhase reader (.released read), none)
      | _ => (state, none)
  | .finish reader =>
      match state.phase reader with
      | .released read =>
          let (device, served) := myReadRest (state.system.devices (files.minor read.file))
            read.len read.room read.pos
          (⟨⟨Function.update state.system.devices (files.minor read.file) device,
            read.place.commit state.system.positions read.file served.offset⟩,
            Function.update state.phase reader .idle⟩, some ⟨served.ret, served.data⟩)
      | _ => (state, none)
  | .write file place len source =>
      if 0 < len ∧ Delivers state.system file place len source then
        let (system, reply) := DualPoll.step files state.system (.write file place len source)
        ({ state with system := system }, reply)
      else (state, none)

/-- The loaded driver, with no read in flight. -/
def start : State := ⟨loaded, fun _ => .idle⟩

/-- A read that starts with the flag set and finishes at once is the read of the
undivided system. -/
theorem ready_read_undivided (files : Files) (state : State) (reader file : Nat) (place : Place)
    (len room : Nat) (idle : state.phase reader = .idle)
    (flag : (state.system.devices (files.minor file)).eventFlag = true)
    (admitted : place.offset state.system.positions file < loffLimit) :
    let entered := (step files state (.enter reader file place len room)).1
    ((step files entered (.finish reader)).1.system, (step files entered (.finish reader)).2) =
      DualPoll.step files state.system (.read file place len room false) := by
  rw [read_call_ready files state.system file place len room false flag admitted]
  simp only [step, idle, if_neg (Nat.not_le_of_lt admitted), myReadEntry, flag, if_true,
    State.setPhase, Function.update_self]

/-- A read that waits, is signalled and finishes at once is the signalled read of
the undivided system. -/
theorem signalled_read_undivided (files : Files) (state : State) (reader file : Nat)
    (place : Place) (len room : Nat) (idle : state.phase reader = .idle)
    (flag : (state.system.devices (files.minor file)).eventFlag = false)
    (blocks : files.nonblock file = false)
    (admitted : place.offset state.system.positions file < loffLimit) :
    let entered := (step files state (.enter reader file place len room)).1
    let signalled := (step files entered (.signal reader)).1
    ((step files signalled (.finish reader)).1.system,
      (step files signalled (.finish reader)).2) =
      DualPoll.step files state.system (.read file place len room true) := by
  simp only [step, DualPoll.step, idle, if_neg (Nat.not_le_of_lt admitted), myRead, myReadEntry,
    flag, blocks, Bool.false_eq_true, if_false, State.setPhase, Function.update_self]

/-- What a step can do to the devices: nothing, the rest of one read on its minor,
or one new message. -/
inductive Effect (files : Files) (state : State) : Action → (Minor → Device) → Prop where
  | unchanged (action : Action) : Effect files state action state.system.devices
  | finished (reader : Nat) (read : ReadCall) (released : state.phase reader = .released read) :
      Effect files state (.finish reader)
        (Function.update state.system.devices (files.minor read.file)
          (myReadRest (state.system.devices (files.minor read.file)) read.len read.room
            read.pos).1)
  | written (file : Nat) (place : Place) (len : Nat) (source : UserSource) (nonempty : 0 < len)
      (delivers : Delivers state.system file place len source) :
      Effect files state (.write file place len source)
        (Function.update state.system.devices (files.minor file)
          ⟨true, store (state.system.devices (files.minor file)).buffer 0
            (source.landed (min (min len maxRwCount) bufSize)), min (min len maxRwCount) bufSize⟩)

/-- Every step has one of these effects. -/
theorem step_effect (files : Files) (state : State) (action : Action) :
    Effect files state action (step files state action).1.system.devices := by
  cases action with
  | enter reader file place len room =>
    simp only [step]
    split
    · split
      · exact .unchanged _
      · split <;> exact .unchanged _
    · exact .unchanged _
  | wake reader =>
    simp only [step]
    split
    · split <;> exact .unchanged _
    · exact .unchanged _
  | signal reader =>
    simp only [step]
    split <;> exact .unchanged _
  | finish reader =>
    simp only [step]
    split
    · rename_i read released
      exact .finished reader read released
    · exact .unchanged _
  | write file place len source =>
    by_cases enabled : 0 < len ∧ Delivers state.system file place len source
    · obtain ⟨nonempty, delivers⟩ := enabled
      simp only [step, nonempty, delivers, and_self, if_true,
        write_call_delivers files state.system file place len source delivers]
      exact .written file place len source nonempty delivers
    · simp only [step, if_neg enabled]
      exact .unchanged _

/-- A device has an event exactly when it has a message. -/
def Live (device : Device) : Prop := device.eventFlag = true ↔ 0 < device.bufferSize

/-- Every step keeps every device live: no message that is written is empty. -/
theorem live_kept (files : Files) (state : State) (action : Action)
    (live : ∀ minor, Live (state.system.devices minor)) (minor : Minor) :
    Live ((step files state action).1.system.devices minor) := by
  have effect := step_effect files state action
  generalize (step files state action).1.system.devices = devices at effect ⊢
  cases effect with
  | unchanged => exact live minor
  | finished reader read released =>
    refine devices_update Live _ _ _ live ?_ minor
    rcases read_rest_cases (state.system.devices (files.minor read.file)) read.len read.room
        read.pos with ⟨same, _⟩ | ⟨consumed, _⟩
    · rw [same]
      exact live (files.minor read.file)
    · rw [consumed]
      exact iff_of_false Bool.false_ne_true (Nat.lt_irrefl 0)
  | written file place len source nonempty delivers =>
    have message : 0 < min (min len maxRwCount) bufSize := by
      simp only [maxRwCount, bufSize]
      omega
    exact devices_update Live _ _ _ live (iff_of_true rfl message) minor

/-- Every device is live in every run from loading. -/
theorem live_after (files : Files) (actions : List Action) (minor : Minor) :
    Live ((after (step files) start actions).system.devices minor) :=
  invariant_after (step files) (fun state => ∀ minor, Live (state.system.devices minor))
    (fun state action live => live_kept files state action live) start actions
    (fun _ => iff_of_false Bool.false_ne_true (Nat.lt_irrefl 0)) minor

/-- What a step does to the pending message of a minor. A write puts its message;
a read that reaches the end of a message takes it. -/
def putMessage (files : Files) (event : Event State Action) (minor : Minor) :
    Option (Option (List UInt8)) :=
  match event.call with
  | .write file place len source =>
      if 0 < len ∧ Delivers event.before.system file place len source ∧
          minor = files.minor file then
        some (some (source.landed (min (min len maxRwCount) bufSize)))
      else none
  | .finish reader =>
      match event.before.phase reader with
      | .released read =>
          let device := event.before.system.devices (files.minor read.file)
          if minor = files.minor read.file ∧
              device.bufferSize ≤ (myReadRest device read.len read.room read.pos).2.offset then
            some none
          else none
      | _ => none
  | _ => none

/-- The message pending on a minor after some steps: the last that was written
and not taken. -/
def pendingMessage (files : Files) (actions : List Action) (minor : Minor) :
    Option (List UInt8) :=
  (lastPut (putMessage files) (trace (step files) start actions) minor).getD none

/-- The message that a device holds. -/
def heldMessage (device : Device) : Option (List UInt8) :=
  if device.eventFlag then some (load device.buffer 0 device.bufferSize) else none

/-- The steps that only move a reader. -/
def Action.Quiet : Action → Prop
  | .finish _ | .write .. => False
  | _ => True

/-- A quiet step leaves the devices and the pending messages. -/
theorem quiet_step (files : Files) (event : Event State Action) (quiet : event.call.Quiet) :
    (event.left (step files)).system.devices = event.before.system.devices ∧
      ∀ minor, putMessage files event minor = none := by
  obtain ⟨state, action⟩ := event
  constructor
  · have effect := step_effect files state action
    simp only [Event.left]
    generalize (step files state action).1.system.devices = devices at effect ⊢
    cases effect with
    | unchanged => rfl
    | finished | written => exact absurd quiet id
  · intro minor
    cases action with
    | enter | wake | signal => rfl
    | finish | write => exact absurd quiet id

/-- What one step does to the messages that the devices hold is what it does to
the pending ones. -/
theorem held_step (files : Files) (event : Event State Action) (minor : Minor) :
    heldMessage ((event.left (step files)).system.devices minor) =
      (putMessage files event minor).getD (heldMessage (event.before.system.devices minor)) := by
  by_cases quiet : event.call.Quiet
  · obtain ⟨same, nothing⟩ := quiet_step files event quiet
    rw [same, nothing, Option.getD_none]
  obtain ⟨state, action⟩ := event
  cases action with
  | enter | wake | signal => exact absurd trivial quiet
  | finish reader =>
    cases phase : state.phase reader with
    | idle => simp only [Event.left, step, putMessage, phase, Option.getD_none]
    | waiting read => simp only [Event.left, step, putMessage, phase, Option.getD_none]
    | released read =>
      simp only [Event.left, step, putMessage, phase]
      by_cases same : minor = files.minor read.file
      · subst same
        rw [Function.update_self]
        rcases read_rest_cases (state.system.devices (files.minor read.file)) read.len read.room
            read.pos with ⟨kept, before⟩ | ⟨consumed, ended⟩
        · rw [kept, if_neg (fun taken => absurd taken.2 (Nat.not_le_of_lt before))]
          rfl
        · rw [consumed, if_pos ⟨rfl, ended⟩]
          rfl
      · rw [Function.update_of_ne same, if_neg (fun taken => same taken.1)]
        rfl
  | write file place len source =>
    by_cases enabled : 0 < len ∧ Delivers state.system file place len source
    · obtain ⟨nonempty, delivers⟩ := enabled
      simp only [Event.left, step, putMessage, nonempty, delivers, and_self, true_and, if_true,
        write_call_delivers files state.system file place len source delivers]
      by_cases same : minor = files.minor file
      · subst same
        have length := source.landed_length_complete (min (min len maxRwCount) bufSize) delivers.2
        have stored := load_store_same (state.system.devices (files.minor file)).buffer 0
          (source.landed (min (min len maxRwCount) bufSize))
        rw [length] at stored
        simp only [Function.update_self, if_true, heldMessage, stored, Option.getD_some]
      · rw [Function.update_of_ne same, if_neg same]
        rfl
    · have disabled : ¬ (0 < len ∧ Delivers state.system file place len source ∧
          minor = files.minor file) := fun all => enabled ⟨all.1, all.2.1⟩
      simp only [Event.left, step, putMessage, if_neg enabled, if_neg disabled, Option.getD_none]

/-- In every run, a device holds exactly the message pending on its minor. -/
theorem held_pending (files : Files) (actions : List Action) (minor : Minor) :
    heldMessage ((after (step files) start actions).system.devices minor) =
      pendingMessage files actions minor :=
  view_after (step files) (fun _ => True) (fun _ => True) (fun _ => True)
    (fun state minor => heldMessage (state.system.devices minor)) (putMessage files)
    (fun _ _ _ => trivial) (fun event key _ _ _ => held_step files event key) start actions trivial
    (fun _ _ => trivial) minor trivial

/-- A released reader that has fetched the start of its file, with a positive
length and a valid buffer. -/
def FreshRead (state : State) (reader : Nat) (read : ReadCall) : Prop :=
  state.phase reader = .released read ∧ read.pos = 0 ∧ 0 < read.len ∧ read.len ≤ read.room

/-- When the rest of the read runs, it fails, or returns at least one byte from the
start of the message pending then. -/
def Answered (files : Files) (actions : List Action) (reader : Nat) (read : ReadCall) : Prop :=
  ∃ told, (step files (after (step files) start actions) (.finish reader)).2 = some told ∧
    (0 ≤ told.ret → told.data ≠ [] ∧
      ∃ message, pendingMessage files actions (files.minor read.file) = some message ∧
        told.data <+: message)

/-- A fresh read is answered exactly when the event flag is set as its rest runs. -/
theorem answered_iff (files : Files) (actions : List Action) (reader : Nat) (read : ReadCall)
    (fresh : FreshRead (after (step files) start actions) reader read) :
    Answered files actions reader read ↔
      ((after (step files) start actions).system.devices (files.minor read.file)).eventFlag =
        true := by
  obtain ⟨released, atStart, requested, valid⟩ := fresh
  have live := live_after files actions (files.minor read.file)
  have held := held_pending files actions (files.minor read.file)
  rw [Answered, ← held]
  generalize after (step files) start actions = state at released live ⊢
  simp only [step, released, atStart, myReadRest]
  cases flag : (state.system.devices (files.minor read.file)).eventFlag with
  | false =>
    have empty : (state.system.devices (files.minor read.file)).bufferSize = 0 := by
      by_contra some
      exact Bool.false_ne_true (flag.symm.trans (live.mpr (Nat.pos_of_ne_zero some)))
    refine iff_of_false ?_ Bool.false_ne_true
    rintro ⟨told, same, answer⟩
    rw [← Option.some.inj same] at answer
    simp only [simpleReadFromBuffer, empty, Nat.zero_le, true_or, if_true] at answer
    exact (answer (Int.le_refl 0)).1 rfl
  | true =>
    have pending := live.mp flag
    have served := simple_read_served (state.system.devices (files.minor read.file)).buffer
      (state.system.devices (files.minor read.file)).bufferSize 0 read.len read.room pending
      requested valid
    refine iff_of_true ⟨_, rfl, fun _ => ⟨?_, _, if_pos flag, ?_⟩⟩ rfl
    · rw [served]
      intro nothing
      have length := congrArg List.length nothing
      simp only [load_length, List.length_nil] at length
      omega
    · rw [served]
      simp only [Nat.sub_zero]
      rw [← take_load]
      exact List.take_prefix _ _

/-- In every run, every fresh read is answered exactly when, as the rest of each
runs, the event flag of its minor is set: no other read has consumed the event
since the release, and no signal has released a reader while there was none. -/
theorem fresh_reads_answered_iff (files : Files) (actions : List Action) :
    (∀ earlier later reader read, actions = earlier ++ .finish reader :: later →
      FreshRead (after (step files) start earlier) reader read →
      Answered files earlier reader read) ↔
    (∀ earlier later reader read, actions = earlier ++ .finish reader :: later →
      FreshRead (after (step files) start earlier) reader read →
      ((after (step files) start earlier).system.devices (files.minor read.file)).eventFlag =
        true) := by
  constructor
  · intro answered earlier later reader read split fresh
    exact (answered_iff files earlier reader read fresh).mp
      (answered earlier later reader read split fresh)
  · intro flagged earlier later reader read split fresh
    exact (answered_iff files earlier reader read fresh).mpr
      (flagged earlier later reader read split fresh)

/-- Files of the first minor that block. -/
def blockers : Files := ⟨fun _ => firstMinor, fun _ => false⟩

/-- The read of one byte at the start of file 0. -/
def readOne : ReadCall := ⟨0, .current, 0, 1, 1⟩

/-- A reader that a signal has released, and one whose event another reader has
consumed, both return zero without a byte. -/
theorem released_without_event :
    (FreshRead (after (step blockers) start [.enter 0 0 .current 1 1, .signal 0]) 0 readOne ∧
      ¬ Answered blockers [.enter 0 0 .current 1 1, .signal 0] 0 readOne) ∧
    (FreshRead (after (step blockers) start
        [.enter 0 0 .current 1 1, .enter 1 1 .current 1 1, .write 2 .current 1 (.ofBytes [65]),
          .wake 0, .wake 1, .finish 1]) 0 readOne ∧
      ¬ Answered blockers
        [.enter 0 0 .current 1 1, .enter 1 1 .current 1 1, .write 2 .current 1 (.ofBytes [65]),
          .wake 0, .wake 1, .finish 1] 0 readOne) := by
  refine ⟨⟨⟨rfl, rfl, by decide, by decide⟩, ?_⟩, ⟨⟨rfl, rfl, by decide, by decide⟩, ?_⟩⟩
  · rintro ⟨told, same, answer⟩
    rw [← Option.some.inj same] at answer
    exact (answer (by decide)).1 rfl
  · rintro ⟨told, same, answer⟩
    rw [← Option.some.inj same] at answer
    exact (answer (by decide)).1 rfl

end LddExamples.BlockingReads
