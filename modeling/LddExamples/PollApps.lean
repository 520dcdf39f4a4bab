import LddExamples.DualPoll
import LddExamples.StringBuffers

/-!
# The programs that wait for the dual device

`014_poll_select/poll_app.c`, `select_app.c` and `epoll_app.c`: each has one non-blocking file
open on each minor, waits until one of them has input, reads once from each file that the wait
has reported, and prints what it has read. None of them seeks. Other processes make any calls
on files of their own between any two steps, also while a wait looks at one file after the
other. Opening the files, failures of the waits and the labels of the lines are left out.
-/

namespace LddExamples.PollApps

open Runs ByteWindows KernelInterface StringBuffers DualPoll

/-- `sizeof(buf)` -/
def sizeofBuf : Nat := 128

/-- The three programs. -/
inductive Program where
  | pollApp
  | selectApp
  | epollApp
deriving DecidableEq

/-- What a program asks each read for. -/
def Program.request : Program → Nat
  | .pollApp => sizeofBuf
  | .selectApp | .epollApp => sizeofBuf - 1

/-- The program puts a zero byte behind what it has read. -/
def Program.terminates : Program → Bool
  | .pollApp => false
  | .selectApp | .epollApp => true

/-- The files that the wait has reported, in the order in which the program reads from them:
only `epoll_wait` hands them out in an order of its own. -/
def Program.order (program : Program) (ready : List Minor) : List Minor :=
  match program with
  | .pollApp | .selectApp => (List.finRange deviceCnt).filter (· ∈ ready)
  | .epollApp => ready

/-- What a program does after a read: nothing, or it prints a line, for which `%s` may look for
a zero byte beyond the buffer. -/
inductive Output where
  | nothing
  | line (text : List UInt8)
  | overrun

/-- What a program does with a reply: nothing if the read has returned no byte, else it prints
the string in its buffer. `poll_app.c` clears the buffer before each read; what the other two
have left in it lies behind the zero byte that they put. -/
def Program.prints (program : Program) (reply : Reply) : Output :=
  if 0 < reply.ret then
    let buf := store (fun _ => 0) 0 reply.data
    let buf := if program.terminates then store buf reply.ret.toNat [0] else buf
    if 0 ∈ load buf 0 sizeofBuf then .line (stringIn sizeofBuf buf) else .overrun
  else .nothing

/-- The open files, with the program's own two among them. -/
structure Opened where
  files : Files
  handle : Minor → Nat
  onMinor : ∀ minor, files.minor (handle minor) = minor
  nonblocking : ∀ minor, files.nonblock (handle minor) = true

/-- The program has file 0 on the first minor and file 1 on the second; any other file is a
blocking one on the first. -/
def twoFiles : Opened where
  files := ⟨fun file => if file = 1 then Fin.last 1 else firstMinor, fun file => decide (file < 2)⟩
  handle minor := minor.val
  onMinor := by decide
  nonblocking := by decide

/-- The wait has found some files ready, or the program still has to read from some. -/
inductive Stage where
  | waiting (ready : List Minor)
  | serving (rest : List Minor)

/-- The devices and the open files, and where the program is. -/
structure App where
  driver : DualPoll.System
  stage : Stage

/-- A look of the wait at a file, its return, the program's next read, and a call of another
process. -/
inductive Action where
  | poll (minor : Minor)
  | waitReturns
  | read
  | other (call : Call)

/-- The file on which a call is made. -/
def callFile : Call → Nat
  | .poll file | .read file .. | .write file .. | .seek file _ => file

/-- One step, with the reply that a read of the program receives. A step that is not enabled
changes nothing. -/
def step (opened : Opened) (program : Program) (app : App) : Action → App × Option (Minor × Reply)
  | .poll minor =>
      match app.stage with
      | .waiting ready =>
          if myPoll (app.driver.devices (opened.files.minor (opened.handle minor))) &&& pollIn ≠ 0
              ∧ minor ∉ ready then
            ({ app with stage := .waiting (ready ++ [minor]) }, none)
          else (app, none)
      | .serving _ => (app, none)
  | .waitReturns =>
      match app.stage with
      | .waiting [] | .serving _ => (app, none)
      | .waiting ready => ({ app with stage := .serving (program.order ready) }, none)
  | .read =>
      match app.stage with
      | .waiting _ => (app, none)
      | .serving [] => ({ app with stage := .waiting [] }, none)
      | .serving (minor :: rest) =>
          let (driver, reply) := DualPoll.step opened.files app.driver
            (.read (opened.handle minor) .current program.request sizeofBuf false)
          (⟨driver, .serving rest⟩, reply.map (minor, ·))
  | .other call =>
      if ∃ minor, opened.handle minor = callFile call then (app, none)
      else ({ app with driver := (DualPoll.step opened.files app.driver call).1 }, none)

/-- The program waits for the devices as they are loaded. -/
def start : App := ⟨loaded, .waiting []⟩

/-- The message that is pending on a device. -/
def message (device : Device) : List UInt8 := load device.buffer 0 device.bufferSize

section Replies

variable (opened : Opened) (program : Program)

/-- What a step's read has put in the buffer, from one minor. -/
def receivedBy (minor : Minor) (event : Event App Action) : List UInt8 :=
  match event.reply (step opened program) with
  | some (other, reply) => if other = minor then reply.data else []
  | none => []

/-- All that the program has received from a minor. -/
def received (minor : Minor) (history : List (Event App Action)) : List UInt8 :=
  history.flatMap (receivedBy opened program minor)

/-- One more step adds what it has received. -/
theorem received_append (minor : Minor) (history : List (Event App Action))
    (event : Event App Action) :
    received opened program minor (history ++ [event]) =
      received opened program minor history ++ receivedBy opened program minor event := by
  simp only [received, List.flatMap_append, List.flatMap_singleton]

end Replies

/-- What every run keeps: each of the program's files stands behind all that it has received,
and within the buffer of the device. -/
structure Placed (opened : Opened) (program : Program) (history : List (Event App Action))
    (app : App) : Prop where
  wellformed : Wellformed app.driver
  reached : ∀ minor, app.driver.positions (opened.handle minor) =
    (received opened program minor history).length
  within : ∀ minor, app.driver.positions (opened.handle minor) ≤ bufSize

/-- A call moves no file but its own. -/
theorem positions_other (files : Files) (system : System) (call : Call) (file : Nat)
    (other : file ≠ callFile call) :
    (DualPoll.step files system call).1.positions file = system.positions file := by
  cases call with
  | poll => rfl
  | seek own position =>
    simp only [DualPoll.step]
    split
    · rfl
    · exact Function.update_of_ne other _ _
  | read own place len room signalled =>
    rcases read_call_cases files system own place len room signalled with same | ⟨_, _, left⟩
    · rw [same]
    · rw [left]
      exact place.commit_other _ _ _ _ other
  | write own place len source =>
    by_cases delivers : Delivers system own place len source
    · rw [write_call_delivers files system own place len source delivers]
      exact place.commit_other _ _ _ _ other
    · obtain ⟨buffer, ret, same, _⟩ := write_call_fails files system own place len source delivers
      rw [same]

/-- A program's read returns what the pending message has beyond the file's position, as far as
it was asked for, and moves the file behind it. -/
theorem program_read (opened : Opened) (program : Program) (system : System) (minor : Minor)
    (wellformed : Wellformed system) :
    ∃ reply, (DualPoll.step opened.files system
        (.read (opened.handle minor) .current program.request sizeofBuf false)).2 = some reply ∧
      reply.data = ((message (system.devices minor)).drop
        (system.positions (opened.handle minor))).take program.request ∧
      (DualPoll.step opened.files system (.read (opened.handle minor) .current program.request
          sizeofBuf false)).1.positions (opened.handle minor) =
        system.positions (opened.handle minor) + reply.data.length ∧
      (reply.data = [] → reply.ret ≤ 0) ∧
      (reply.data ≠ [] → reply.ret = reply.data.length) := by
  have admitted := wellformed.placed (opened.handle minor)
  have coherent := wellformed.coherent minor
  have onMinor := opened.onMinor minor
  have asked : min program.request maxRwCount = program.request := by cases program <;> rfl
  have positive : 0 < program.request := by cases program <;> decide
  have roomy : program.request ≤ sizeofBuf := by cases program <;> decide
  cases flag : (system.devices minor).eventFlag with
  | false =>
    have empty : message (system.devices minor) = [] := by
      rw [message, coherent.quiet flag, load_zero]
    have again : DualPoll.step opened.files system
        (.read (opened.handle minor) .current program.request sizeofBuf false) =
          (system, some ⟨-eagain, []⟩) := by
      simp only [DualPoll.step, Place.offset, if_neg (Nat.not_le_of_lt admitted), myRead,
        myReadEntry, onMinor, flag, opened.nonblocking minor, Bool.false_eq_true, if_false, if_true,
        Function.update_eq_self, Place.commit]
    rw [again, empty]
    exact ⟨_, rfl, by simp, rfl, fun _ => by decide, fun some => absurd rfl some⟩
  | true =>
    have ready := read_call_ready opened.files system (opened.handle minor) .current
      program.request sizeofBuf false (by rw [onMinor]; exact flag) admitted
    rw [ready]
    simp only [onMinor, asked, Place.offset, Place.commit, Function.update_self, myReadRest]
    by_cases inside : system.positions (opened.handle minor) < (system.devices minor).bufferSize
    · rw [simple_read_served _ _ _ _ _ inside positive roomy]
      refine ⟨_, rfl, ?_, ?_, fun none => ?_, fun _ => ?_⟩
      · rw [message, drop_load, take_load, Nat.zero_add]
      · rw [load_length]
      · have length := congrArg List.length none
        rw [load_length, List.length_nil] at length
        omega
      · rw [load_length]
    · have past := Nat.le_of_not_lt inside
      simp only [simpleReadFromBuffer, past, true_or, if_true]
      refine ⟨_, rfl, ?_, rfl, fun _ => Int.le_refl 0, fun some => absurd rfl some⟩
      rw [message, List.drop_eq_nil_of_le (by rw [load_length]; exact past), List.take_nil]

/-- What a step of the program itself does to the driver and receives: nothing, or a read. -/
theorem step_cases (opened : Opened) (program : Program) (app : App) (action : Action) :
    ((step opened program app action).2 = none ∧
        ((step opened program app action).1.driver = app.driver ∨
          ∃ call, (∀ minor, opened.handle minor ≠ callFile call) ∧
            (step opened program app action).1.driver =
              (DualPoll.step opened.files app.driver call).1)) ∨
      ∃ minor, (step opened program app action).1.driver =
          (DualPoll.step opened.files app.driver
            (.read (opened.handle minor) .current program.request sizeofBuf false)).1 ∧
        (step opened program app action).2 =
          (DualPoll.step opened.files app.driver
            (.read (opened.handle minor) .current program.request sizeofBuf false)).2.map
              (minor, ·) := by
  cases action with
  | poll minor =>
    left
    simp only [step]
    split
    · split <;> exact ⟨rfl, Or.inl rfl⟩
    · exact ⟨rfl, Or.inl rfl⟩
  | waitReturns =>
    left
    simp only [step]
    split <;> exact ⟨rfl, Or.inl rfl⟩
  | read =>
    simp only [step]
    split
    · exact Or.inl ⟨rfl, Or.inl rfl⟩
    · exact Or.inl ⟨rfl, Or.inl rfl⟩
    · next minor rest _ => exact Or.inr ⟨minor, rfl, rfl⟩
  | other call =>
    left
    simp only [step]
    split
    · exact ⟨rfl, Or.inl rfl⟩
    · next foreign => exact ⟨rfl, Or.inr ⟨call, not_exists.mp foreign, rfl⟩⟩

/-- Every step keeps each of the program's files behind what it has received. -/
theorem placed_kept (opened : Opened) (program : Program) (history : List (Event App Action))
    (event : Event App Action) (placed : Placed opened program history event.before) :
    Placed opened program (history ++ [event]) (event.left (step opened program)) := by
  obtain ⟨wellformed, reached, within⟩ := placed
  rcases step_cases opened program event.before event.call with
    ⟨silent, driver⟩ | ⟨minor, driver, told⟩
  · have nothing (minor : Minor) : receivedBy opened program minor event = [] := by
      simp only [receivedBy, Event.reply, silent]
    have same (minor : Minor) : received opened program minor (history ++ [event]) =
        received opened program minor history := by
      rw [received_append, nothing, List.append_nil]
    rcases driver with kept | ⟨call, foreign, left⟩
    · refine ⟨?_, fun minor => ?_, fun minor => ?_⟩
      · rwa [Event.left, kept]
      · rw [Event.left, kept, same, reached]
      · rw [Event.left, kept]
        exact within minor
    · have stays (minor : Minor) := positions_other opened.files event.before.driver call
        (opened.handle minor) (foreign minor)
      refine ⟨?_, fun minor => ?_, fun minor => ?_⟩
      · rw [Event.left, left]
        exact wellformed_kept opened.files event.before.driver call wellformed
      · rw [Event.left, left, stays, same, reached]
      · rw [Event.left, left, stays]
        exact within minor
  · obtain ⟨reply, served, data, moved, _, _⟩ :=
      program_read opened program event.before.driver minor wellformed
    have fits := (wellformed.coherent minor).fits
    have near := within minor
    have length : reply.data.length ≤
        (event.before.driver.devices minor).bufferSize -
          event.before.driver.positions (opened.handle minor) := by
      rw [data, message, List.length_take, List.length_drop, load_length]
      exact Nat.min_le_right _ _
    have other (another : Minor) (different : another ≠ minor) :
        opened.handle another ≠ opened.handle minor := by
      intro same
      apply different
      rw [← opened.onMinor another, ← opened.onMinor minor, same]
    have here : receivedBy opened program minor event = reply.data := by
      simp only [receivedBy, Event.reply, told, served, Option.map_some, if_true]
    have elsewhere (another : Minor) (different : another ≠ minor) :
        receivedBy opened program another event = [] := by
      simp only [receivedBy, Event.reply, told, served, Option.map_some, if_neg different.symm]
    have stays (another : Minor) (different : another ≠ minor) :=
      positions_other opened.files event.before.driver
        (.read (opened.handle minor) .current program.request sizeofBuf false)
        (opened.handle another) (other another different)
    refine ⟨?_, fun another => ?_, fun another => ?_⟩
    · rw [Event.left, driver]
      exact wellformed_kept opened.files event.before.driver _ wellformed
    · rw [Event.left, driver, received_append, List.length_append]
      by_cases same : another = minor
      · rw [same, moved, here, reached]
      · rw [stays another same, elsewhere another same, reached, List.length_nil, Nat.add_zero]
    · rw [Event.left, driver]
      by_cases same : another = minor
      · rw [same, moved]
        omega
      · rw [stays another same]
        exact within another

/-- Zeroed memory needs no terminator behind what is stored in it. -/
theorem store_zeroed (bytes : List UInt8) :
    store (store (fun _ => 0) 0 bytes) bytes.length [0] = store (fun _ => 0) 0 bytes := by
  funext index
  by_cases last : index = bytes.length
  · subst last
    have stored := store_inside (store (fun _ => 0) 0 bytes) bytes.length [0] 0 Nat.zero_lt_one
    have outside := store_outside (fun _ => 0) 0 bytes bytes.length (by omega)
    rw [Nat.add_zero] at stored
    rw [stored, outside]
    rfl
  · exact store_outside _ _ _ _ (by simp only [List.length_singleton]; omega)

/-- The bytes fill the buffer of a program that puts no zero behind them, and none is zero. -/
def Overruns (program : Program) (bytes : List UInt8) : Prop :=
  program = .pollApp ∧ bytes.length = sizeofBuf ∧ (0 : UInt8) ∉ bytes

/-- What is printed for a read that has returned bytes. -/
theorem prints_bytes (program : Program) (reply : Reply) (some : reply.data ≠ [])
    (told : reply.ret = reply.data.length) (asked : reply.data.length ≤ program.request) :
    (Overruns program reply.data → program.prints reply = .overrun) ∧
      (¬ Overruns program reply.data → program.prints reply = .line (beforeZero reply.data)) := by
  have positive : 0 < reply.ret := by
    have length := List.length_pos_of_ne_nil some
    omega
  have ended : reply.ret.toNat = reply.data.length := by omega
  by_cases short : reply.data.length < sizeofBuf
  · -- There is room for a zero byte, whether the program puts it there or not.
    have buf : (if program.terminates then
        store (store (fun _ => 0) 0 reply.data) reply.data.length [0]
        else store (fun _ => 0) 0 reply.data) =
          store (store (fun _ => 0) 0 reply.data) reply.data.length [0] := by
      rw [store_zeroed, ite_self]
    have zero : (0 : UInt8) ∈ load
        (store (store (fun _ => 0) 0 reply.data) reply.data.length [0]) 0 sizeofBuf := by
      refine List.mem_map.mpr ⟨reply.data.length, List.mem_range.mpr short, ?_⟩
      rw [Nat.zero_add]
      exact store_inside _ reply.data.length [0] 0 Nat.zero_lt_one
    refine ⟨fun ⟨_, whole, _⟩ => by omega, fun _ => ?_⟩
    simp only [Program.prints, if_pos positive, ended, buf, if_pos zero]
    rw [string_stored _ _ _ short]
  · have poll : program = .pollApp := by
      cases program with
      | pollApp => rfl
      | selectApp | epollApp => exact absurd (Nat.lt_succ_of_le asked) short
    subst poll
    have whole : reply.data.length = sizeofBuf := Nat.le_antisymm asked (Nat.le_of_not_lt short)
    have loaded : load (store (fun _ => 0) 0 reply.data) 0 sizeofBuf = reply.data := by
      rw [← whole]
      exact load_store_same _ _ _
    simp only [Program.prints, if_pos positive, Program.terminates, Bool.false_eq_true, if_false,
      loaded, stringIn, Overruns, whole, true_and]
    exact ⟨fun absent => if_neg absent, fun zero => if_pos (not_not.mp zero)⟩

/-- In every run, a program receives of each message only what lies beyond all that it has
received from the device before, 128 bytes in all; it prints what it has received up to a zero
byte; and it looks for one beyond its buffer just if it is `poll_app.c`, when its first read
from a device returns a message of 128 bytes of which none is zero. -/
theorem programs_receive (opened : Opened) (program : Program) (actions : List Action) :
    AtEachState (step opened program) start actions (fun history _ =>
        ∀ minor, (received opened program minor history).length ≤ bufSize) ∧
      AtEachCall (step opened program) start actions fun history event =>
        ∀ minor reply, event.reply (step opened program) = some (minor, reply) →
          reply.data = ((message (event.before.driver.devices minor)).drop
            (received opened program minor history).length).take program.request ∧
          (reply.data = [] → program.prints reply = .nothing) ∧
          (reply.data ≠ [] → ¬ Overruns program reply.data →
            program.prints reply = .line (beforeZero reply.data)) ∧
          (reply.data ≠ [] → Overruns program reply.data → program.prints reply = .overrun ∧
            received opened program minor history = []) := by
  have along := history_along (step opened program) (Placed opened program) (fun _ _ => True)
    (fun history event placed _ => placed_kept opened program history event placed) start actions
    ⟨wellformed_after opened.files [], fun _ => rfl, fun _ => Nat.zero_le _⟩ (fun _ _ _ => trivial)
  refine ⟨fun earlier isPrefix minor => ?_, ?_⟩
  · have placed := along earlier isPrefix
    rw [← placed.reached]
    exact placed.within minor
  · intro earlier action isPrefix minor reply replied
    obtain ⟨wellformed, reached, within⟩ :=
      along earlier ((List.prefix_append _ _).trans isPrefix)
    generalize trace (step opened program) start earlier = history at reached ⊢
    generalize after (step opened program) start earlier = app at *
    rcases step_cases opened program app action with ⟨silent, _⟩ | ⟨other, _, told⟩
    · exact absurd (silent.symm.trans replied) (by simp)
    · obtain ⟨served, same, data, _, quiet, counts⟩ :=
        program_read opened program app.driver other wellformed
      rw [same, Option.map_some] at told
      obtain ⟨rfl, rfl⟩ := Prod.mk.inj (Option.some.inj (told.symm.trans replied))
      rw [← reached]
      have length : served.data.length = min program.request
          ((app.driver.devices other).bufferSize - app.driver.positions (opened.handle other)) := by
        rw [data, message, List.length_take, List.length_drop, load_length]
      have asked : served.data.length ≤ program.request := by omega
      refine ⟨data, fun none => ?_, fun some fits => ?_, fun some overruns => ?_⟩
      · simp only [Program.prints, if_neg (Int.not_lt.mpr (quiet none))]
      · exact (prints_bytes program served some (counts some) asked).2 fits
      · refine ⟨(prints_bytes program served some (counts some) asked).1 overruns, ?_⟩
        have fits : (app.driver.devices other).bufferSize ≤ 128 :=
          (wellformed.coherent other).fits
        have whole : served.data.length = 128 := overruns.2.1
        apply List.eq_nil_of_length_eq_zero
        rw [← reached]
        omega

/-- Another process writes `hi` to the first minor, and the wait of the program finds it. -/
def greeted : List Action :=
  [.other (.write 2 .current 2 (.ofBytes (textBytes "hi"))), .poll firstMinor, .waitReturns]

/-- The program prints what the other process has written. -/
theorem greeting_printed :
    ∃ reply, (step twoFiles .selectApp (after (step twoFiles .selectApp) start greeted) .read).2 =
        some (0, reply) ∧
      Program.selectApp.prints reply = .line (textBytes "hi") := by
  have served : (step twoFiles .selectApp (after (step twoFiles .selectApp) start greeted)
      .read).2 = some (0, ⟨2, textBytes "hi"⟩) := by decide
  have received := (programs_receive twoFiles .selectApp (greeted ++ [.read])).2 greeted .read
    List.prefix_rfl 0 ⟨2, textBytes "hi"⟩ served
  have short : ¬ Overruns .selectApp (textBytes "hi") :=
    fun overruns => absurd overruns.1 (by decide)
  exact ⟨_, served, received.2.2.1 (by decide) short⟩

end LddExamples.PollApps
