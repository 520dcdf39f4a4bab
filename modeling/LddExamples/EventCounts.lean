import LddExamples.DeferredWork

/-!
# What the interrupt demo counts

The counters of `021_interrupt_handler/irq_handler_kernel.c` over whole runs. Nothing ever
increments the count of interrupts or sets their number. The other two counters are the
executions since the last reset. A schedule is accepted if nothing of its kind is pending;
every accepted schedule is executed once, or still pending, and the others are lost.
-/

namespace LddExamples.EventCounts

open Runs KernelInterface InterruptDemo DeferredWork

/-- The two functions that can be scheduled. -/
inductive Kind where
  | tasklet
  | work
deriving DecidableEq

/-- The counter of a kind. -/
def count (device : Device) : Kind → BitVec 64
  | .tasklet => device.taskletCount
  | .work => device.workQueueCount

/-- Whether a function of the kind is scheduled. -/
def pending (device : Device) : Kind → Bool
  | .tasklet => device.taskletPending
  | .work => device.workPending

/-- What a call does to the counters and to what is pending. -/
inductive Doing where
  | schedules (kind : Kind)
  | executes (kind : Kind)
  | resets
  | other
deriving DecidableEq

/-- What a command does. -/
def commanded (command : UInt8) : Doing :=
  if command = 84 then .schedules .tasklet
  else if command = 87 then .schedules .work
  else if command = 82 then .resets
  else .other

/-- What a step does to the counters and to what is scheduled. A trigger counts only while
the attributes are there, a written command only through an open descriptor, and an
execution only of what is scheduled. -/
def doing (event : Event Demo DemoCall) : Doing :=
  match event.call with
  | .triggerTasklet _ => if event.before.stage = .loaded then .schedules .tasklet else .other
  | .triggerWork _ => if event.before.stage = .loaded then .schedules .work else .other
  | .resetCount _ => if event.before.stage = .loaded then .resets else .other
  | .write source _ =>
      if 0 < event.before.openFiles then ((copyByteFromUser source).map commanded).getD .other
      else .other
  | .runTasklet => if event.before.device.taskletPending then .executes .tasklet else .other
  | .runWork => if event.before.device.workPending then .executes .work else .other
  | _ => .other

/-- The device once something is done. -/
def Doing.apply (device : Device) : Doing → Device
  | .schedules .tasklet => taskletSchedule device
  | .schedules .work => scheduleWork device
  | .executes .tasklet => taskletFunc { device with taskletPending := false }
  | .executes .work => workFunc { device with workPending := false }
  | .resets => resetCounts device
  | .other => device

/-- A command is carried out as it is named. -/
theorem run_command_does (device : Device) (command : UInt8) :
    runCommand device command = (commanded command).apply device := by
  simp only [runCommand, commanded]
  split
  · rfl
  · split
    · rfl
    · split <;> rfl

/-- Every call leaves the device as what it does leaves it. -/
theorem step_does (event : Event Demo DemoCall) :
    (event.left demoStep).device = (doing event).apply event.before.device := by
  obtain ⟨demo, call⟩ := event
  cases call with
  | openFile | releaseFile | read | irqCount | irqInfo | exit | exitReturns =>
    simp only [Event.left, demoStep, doing]
    first
      | rfl
      | split <;> rfl
  | triggerTasklet | triggerWork | resetCount =>
    simp only [Event.left, demoStep, Demo.store, doing]
    split <;> rfl
  | runTasklet | runWork =>
    simp only [Event.left, demoStep, doing]
    split <;> rfl
  | write source size =>
    simp only [Event.left, demoStep, doing]
    split
    · cases copied : copyByteFromUser source with
      | none => simp [irqWrite, copied, Doing.apply]
      | some command => simp [irqWrite, copied, run_command_does]
    · rfl

/-- The executions since the last reset, once one more call has been made. -/
def countExecution (kind : Kind) (executions : Nat) (event : Event Demo DemoCall) : Nat :=
  match doing event with
  | .resets => 0
  | .executes other => if other = kind then executions + 1 else executions
  | _ => executions

/-- How often functions of a kind were executed since the last reset, or since loading. -/
def sinceReset (kind : Kind) (history : List (Event Demo DemoCall)) : Nat :=
  history.foldl (countExecution kind) 0

/-- The executions of a kind. -/
def executed (kind : Kind) (history : List (Event Demo DemoCall)) : Nat :=
  history.countP fun event => doing event = .executes kind

/-- The schedules of a kind that find nothing of it pending. -/
def accepted (kind : Kind) (history : List (Event Demo DemoCall)) : Nat :=
  history.countP fun event =>
    doing event = .schedules kind ∧ pending event.before.device kind = false

/-- What the counters say after a history. -/
structure Counted (history : List (Event Demo DemoCall)) (demo : Demo) : Prop where
  interrupts : demo.device.interruptCount = 0
  number : demo.device.irqNumber = 0
  counts : ∀ kind, count demo.device kind = BitVec.ofNat 64 (sinceReset kind history)
  conserved : ∀ kind,
    executed kind history + (if pending demo.device kind then 1 else 0) = accepted kind history

/-- Only what is pending is executed. -/
theorem executes_pending (event : Event Demo DemoCall) (kind : Kind)
    (executes : doing event = .executes kind) : pending event.before.device kind = true := by
  obtain ⟨demo, call⟩ := event
  cases call with
  | openFile | releaseFile | read | irqCount | irqInfo | exit | exitReturns =>
    cases executes
  | triggerTasklet | triggerWork | resetCount =>
    simp only [doing] at executes
    split at executes <;> cases executes
  | runTasklet | runWork =>
    simp only [doing] at executes
    split at executes
    · next up =>
      cases executes
      exact up
    · cases executes
  | write source size =>
    simp only [doing] at executes
    split at executes
    · cases copied : copyByteFromUser source with
      | none =>
        rw [copied] at executes
        cases executes
      | some command =>
        rw [copied] at executes
        simp only [Option.map_some, Option.getD_some, commanded] at executes
        split at executes
        · cases executes
        · split at executes
          · cases executes
          · split at executes <;> cases executes
    · cases executes

/-- What is done to a counter. -/
theorem apply_count (device : Device) (does : Doing) (kind : Kind) :
    count (does.apply device) kind =
      match does with
      | .resets => 0
      | .executes other => if other = kind then count device kind + 1 else count device kind
      | _ => count device kind := by
  cases does with
  | schedules other | executes other => cases other <;> cases kind <;> rfl
  | resets | other => cases kind <;> rfl

/-- What is done to what is pending. -/
theorem apply_pending (device : Device) (does : Doing) (kind : Kind) :
    pending (does.apply device) kind =
      match does with
      | .schedules other => if other = kind then true else pending device kind
      | .executes other => if other = kind then false else pending device kind
      | _ => pending device kind := by
  cases does with
  | schedules other | executes other => cases other <;> cases kind <;> rfl
  | resets | other => cases kind <;> rfl

/-- Nothing counts an interrupt or sets its number. -/
theorem apply_interrupts (device : Device) (does : Doing) (none : device.interruptCount = 0) :
    (does.apply device).interruptCount = 0 ∧
      (does.apply device).irqNumber = device.irqNumber := by
  cases does with
  | schedules other | executes other => cases other <;> exact ⟨none, rfl⟩
  | resets => exact ⟨rfl, rfl⟩
  | other => exact ⟨none, rfl⟩

section Histories

variable (history : List (Event Demo DemoCall)) (event : Event Demo DemoCall) (kind : Kind)

/-- One more step, for the executions since the last reset. -/
theorem since_reset_append : sinceReset kind (history ++ [event]) =
    countExecution kind (sinceReset kind history) event :=
  List.foldl_append

/-- One more step, for all executions. -/
theorem executed_append : executed kind (history ++ [event]) =
    executed kind history + if doing event = .executes kind then 1 else 0 := by
  simp [executed, List.countP_append, List.countP_singleton]

/-- One more step, for the accepted triggers. -/
theorem accepted_append : accepted kind (history ++ [event]) =
    accepted kind history +
      if doing event = .schedules kind ∧ pending event.before.device kind = false then 1
      else 0 := by
  simp [accepted, List.countP_append, List.countP_singleton]

/-- A counter is the executions since the last reset after one more call. -/
theorem counts_kept
    (counts : count event.before.device kind = BitVec.ofNat 64 (sinceReset kind history)) :
    count (event.left demoStep).device kind =
      BitVec.ofNat 64 (sinceReset kind (history ++ [event])) := by
  rw [step_does, apply_count, since_reset_append, countExecution]
  cases doing event with
  | schedules other => exact counts
  | other => exact counts
  | resets => rfl
  | executes other =>
    by_cases same : other = kind
    · simp only [if_pos same, counts]
      exact (BitVec.ofNat_add _ 1).symm
    · simp only [if_neg same, counts]

/-- An accepted schedule is executed or still pending after one more call. -/
theorem conserved_kept
    (conserved : executed kind history +
      (if pending event.before.device kind then 1 else 0) = accepted kind history) :
    executed kind (history ++ [event]) +
        (if pending (event.left demoStep).device kind then 1 else 0) =
      accepted kind (history ++ [event]) := by
  have up := executes_pending event kind
  rw [step_does, apply_pending, executed_append, accepted_append, ← conserved]
  cases does : doing event with
  | resets | other => simp
  | schedules other =>
    by_cases same : other = kind
    · cases before : pending event.before.device kind <;> simp [same]
    · simp [same]
  | executes other =>
    by_cases same : other = kind
    · have before := up (by rw [does, same])
      simp [same, before]
    · simp [same]

end Histories

/-- Every call keeps what the counters say. -/
theorem counted_kept (history : List (Event Demo DemoCall)) (event : Event Demo DemoCall)
    (counted : Counted history event.before) :
    Counted (history ++ [event]) (event.left demoStep) := by
  obtain ⟨interrupts, number⟩ :=
    apply_interrupts event.before.device (doing event) counted.interrupts
  rw [← step_does] at interrupts number
  exact ⟨interrupts, number.trans counted.number,
    fun kind => counts_kept history event kind (counted.counts kind),
    fun kind => conserved_kept history event kind (counted.conserved kind)⟩

/-- The digits of a number as an unsigned long holds it. -/
def digitsOf (number : Nat) : List UInt8 := decimalBytes (number % 2 ^ 64)

/-- A counter prints the number that it counts, reduced to its 64 bits. -/
theorem digits_of_eq (number : Nat) :
    decimalBytes (BitVec.ofNat 64 number).toNat = digitsOf number := by
  rw [BitVec.toNat_ofNat, digitsOf]

/-- What a read reports once there were so many executions: no interrupts, the executions of
each kind, and their sum. -/
theorem statistics_bytes (device : Device) (tasklets works : Nat)
    (interrupts : device.interruptCount = 0)
    (taskletCount : device.taskletCount = BitVec.ofNat 64 tasklets)
    (workQueueCount : device.workQueueCount = BitVec.ofNat 64 works) :
    statistics device =
      textBytes "Interrupt Statistics:\nIRQ Interrupts: 0\nTasklet Executions: " ++
        digitsOf tasklets ++ textBytes "\nWork Queue Executions: " ++ digitsOf works ++
        textBytes "\nTotal Events: " ++ digitsOf (tasklets + works) ++ textBytes "\n" := by
  have heading : textBytes "Interrupt Statistics:\nIRQ Interrupts: 0\nTasklet Executions: " =
      textBytes "Interrupt Statistics:\nIRQ Interrupts: " ++ decimalBytes 0 ++
        textBytes "\nTasklet Executions: " := by decide
  have total : device.interruptCount + device.taskletCount + device.workQueueCount =
      BitVec.ofNat 64 (tasklets + works) := by
    have zero : (0 : BitVec 64) = 0#64 := rfl
    rw [interrupts, taskletCount, workQueueCount, BitVec.ofNat_add, zero, BitVec.zero_add]
  rw [statistics, total, interrupts, taskletCount, workQueueCount, heading, digits_of_eq,
    digits_of_eq, digits_of_eq]
  rfl

/-- What the attribute of the counts shows. -/
theorem irq_count_bytes (device : Device) (tasklets works : Nat)
    (interrupts : device.interruptCount = 0)
    (taskletCount : device.taskletCount = BitVec.ofNat 64 tasklets)
    (workQueueCount : device.workQueueCount = BitVec.ofNat 64 works) :
    irqCountShow device =
      textBytes "IRQ Count: 0\nTasklet Count: " ++ digitsOf tasklets ++
        textBytes "\nWork Queue Count: " ++ digitsOf works ++ textBytes "\n" := by
  have heading : textBytes "IRQ Count: 0\nTasklet Count: " =
      textBytes "IRQ Count: " ++ decimalBytes 0 ++ textBytes "\nTasklet Count: " := by decide
  rw [irqCountShow, interrupts, taskletCount, workQueueCount, heading, digits_of_eq, digits_of_eq]
  rfl

/-- In every state of a run: of each kind, the executions and what is pending are the accepted
schedules. A read returns the whole of a text that reports no interrupts and the executions
since the last reset, if there is room for it, and fails otherwise; the attributes show the same
counts, and that there is no interrupt line. -/
theorem events_counted (calls : List DemoCall) :
    AtEachState demoStep demoStart calls fun history demo =>
      let tasklets := sinceReset .tasklet history
      let works := sinceReset .work history
      let report := textBytes "Interrupt Statistics:\nIRQ Interrupts: 0\nTasklet Executions: " ++
        digitsOf tasklets ++ textBytes "\nWork Queue Executions: " ++ digitsOf works ++
        textBytes "\nTotal Events: " ++ digitsOf (tasklets + works) ++ textBytes "\n"
      (∀ kind, executed kind history + (if pending demo.device kind then 1 else 0) =
          accepted kind history) ∧
        (∀ room, irqRead demo.device room =
          if report.length ≤ room then ⟨report.length, report⟩
          else ⟨-efault, report.take room⟩) ∧
        irqCountShow demo.device =
          textBytes "IRQ Count: 0\nTasklet Count: " ++ digitsOf tasklets ++
            textBytes "\nWork Queue Count: " ++ digitsOf works ++ textBytes "\n" ∧
        irqInfoShow demo.device = textBytes "No IRQ registered\n" := by
  have along := history_along demoStep Counted (fun _ _ => True)
    (fun history event counted _ => counted_kept history event counted) demoStart calls
    ⟨rfl, rfl, fun kind => by cases kind <;> rfl, fun kind => by cases kind <;> rfl⟩
    (fun _ _ _ => trivial)
  intro earlier isPrefix tasklets works report
  obtain ⟨interrupts, number, counts, conserved⟩ := along earlier isPrefix
  have text := statistics_bytes _ tasklets works interrupts (counts .tasklet) (counts .work)
  refine ⟨conserved, fun room => ?_, ?_, ?_⟩
  · have read : statistics (after demoStep demoStart earlier).device = report := text
    rw [irqRead, read, copyToUser]
    by_cases fits : report.length ≤ room
    · have none : report.length - room = 0 := Nat.sub_eq_zero_of_le fits
      simp only [if_pos fits, none, ne_eq, not_true_eq_false, if_false,
        List.take_of_length_le fits]
    · have missing : report.length - room ≠ 0 := by omega
      simp only [if_neg fits, if_pos missing]
  · exact irq_count_bytes _ tasklets works interrupts (counts .tasklet) (counts .work)
  · simp only [irqInfoShow, number]
    rfl

end LddExamples.EventCounts
