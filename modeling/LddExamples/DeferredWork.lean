import LddExamples.InterruptDemo
import LddExamples.KeyboardSniffer
import LddExamples.Runs

/-!
# What outlives the interrupt modules

Unloading the interrupt demo waits for neither its tasklet nor its work item, so both
are still pending afterwards if they were when it returned; and a descriptor that is
open then can still schedule them. Unloading the keyboard sniffer leaves its handler
on the line, whatever the run.
-/

namespace LddExamples.DeferredWork

open Runs KernelInterface

section Demo

open InterruptDemo

/-- How far the unloading of the demo has come. -/
inductive Stage where
  | loaded
  | groupRemoved
  | unloaded
deriving DecidableEq

/-- The demo, and how many descriptors of its device are open. -/
structure Demo where
  device : Device
  stage : Stage
  openFiles : Nat

/-- The calls on the module, the executions of what it has scheduled, and the steps of its
unloading. -/
inductive DemoCall where
  | openFile
  | releaseFile
  | read (room : Nat)
  | write (source : UserSource) (size : Nat)
  | irqCount
  | irqInfo
  | triggerWork (count : Nat)
  | triggerTasklet (count : Nat)
  | resetCount (count : Nat)
  | runTasklet
  | runWork
  /-- The removal of the attributes, with which `irq_exit` begins. -/
  | exit
  /-- The rest of `irq_exit`, up to its return. -/
  | exitReturns

/-- A store to an attribute. -/
def Demo.store (demo : Demo) (handler : Device → Device × Int) : Demo × Option Reply :=
  if demo.stage = .loaded then
    ({ demo with device := (handler demo.device).1 }, some ⟨(handler demo.device).2, []⟩)
  else (demo, none)

/-- The reply of an attribute that shows a text. -/
def sysfsText (text : List UInt8) : Reply := ⟨text.length, text⟩

/-- One step; one that is not enabled changes nothing and has no reply. -/
def demoStep (demo : Demo) : DemoCall → Demo × Option Reply
  | .openFile =>
      if demo.stage ≠ .unloaded then ({ demo with openFiles := demo.openFiles + 1 }, some ⟨0, []⟩)
      else (demo, none)
  | .releaseFile => ({ demo with openFiles := demo.openFiles - 1 }, none)
  | .read room =>
      if 0 < demo.openFiles then (demo, some (irqRead demo.device room))
      else (demo, none)
  | .write source size =>
      if 0 < demo.openFiles then
        let (device, ret) := irqWrite demo.device source size
        ({ demo with device := device }, some ⟨ret, []⟩)
      else (demo, none)
  | .irqCount =>
      if demo.stage = .loaded then (demo, some (sysfsText (irqCountShow demo.device)))
      else (demo, none)
  | .irqInfo =>
      if demo.stage = .loaded then (demo, some (sysfsText (irqInfoShow demo.device)))
      else (demo, none)
  | .triggerWork count => demo.store fun device => triggerWorkStore device count
  | .triggerTasklet count => demo.store fun device => triggerTaskletStore device count
  | .resetCount count => demo.store fun device => resetCountStore device count
  | .runTasklet =>
      if demo.device.taskletPending then
        ({ demo with device := taskletFunc { demo.device with taskletPending := false } }, none)
      else (demo, none)
  | .runWork =>
      if demo.device.workPending then
        ({ demo with device := workFunc { demo.device with workPending := false } }, none)
      else (demo, none)
  | .exit =>
      if demo.stage = .loaded then ({ demo with stage := .groupRemoved }, none)
      else (demo, none)
  | .exitReturns =>
      if demo.stage = .groupRemoved then ({ demo with stage := .unloaded }, none) else (demo, none)

/-- The module as it is loaded, with no open descriptor. -/
def demoStart : Demo := ⟨InterruptDemo.loaded, .loaded, 0⟩

/-- Neither the tasklet nor the work item is pending. -/
def Idle (device : Device) : Prop := device.taskletPending = false ∧ device.workPending = false

/-- Once the demo is unloaded, nothing of it is pending. It never has a handler on an
interrupt line. -/
def DemoGone (demo : Demo) : Prop := demo.stage = .unloaded → Idle demo.device

/-- The call schedules the tasklet: a `T`, or a store to its attribute. -/
def SchedulesTasklet (event : Event Demo DemoCall) : Prop :=
  match event.call with
  | .write source _ => 0 < event.before.openFiles ∧ copyByteFromUser source = some 84
  | .triggerTasklet _ => event.before.stage = .loaded
  | _ => False

/-- The call schedules the work item: a `W`, or a store to its attribute. -/
def SchedulesWork (event : Event Demo DemoCall) : Prop :=
  match event.call with
  | .write source _ => 0 < event.before.openFiles ∧ copyByteFromUser source = some 87
  | .triggerWork _ => event.before.stage = .loaded
  | _ => False

/-- After every call that has scheduled the tasklet or the work item, the kernel has run what
it has scheduled. -/
def Executed (history : List (Event Demo DemoCall)) : Prop :=
  Answered SchedulesTasklet (fun event => event.call = .runTasklet) history ∧
    Answered SchedulesWork (fun event => event.call = .runWork) history

/-- The unloading returns when all that was scheduled has been executed, and no later write
through an open descriptor schedules the tasklet or the work item. -/
def DemoSettled (history : List (Event Demo DemoCall)) (event : Event Demo DemoCall) : Prop :=
  match event.call with
  | .exitReturns => event.before.stage = .groupRemoved → Executed history
  | .write source _ =>
      event.before.stage = .unloaded → 0 < event.before.openFiles →
        copyByteFromUser source ≠ some 84 ∧ copyByteFromUser source ≠ some 87
  | _ => True

/-- What is pending is what has been scheduled and not run since. -/
def PendingUnrun (history : List (Event Demo DemoCall)) (demo : Demo) : Prop :=
  (demo.device.taskletPending = false ↔
      Answered SchedulesTasklet (fun event => event.call = .runTasklet) history) ∧
    (demo.device.workPending = false ↔
      Answered SchedulesWork (fun event => event.call = .runWork) history)

/-- What a write schedules. -/
theorem write_pending (device : Device) (source : UserSource) (size : Nat) :
    ((irqWrite device source size).1.taskletPending = false ↔
        copyByteFromUser source ≠ some 84 ∧ device.taskletPending = false) ∧
      ((irqWrite device source size).1.workPending = false ↔
        copyByteFromUser source ≠ some 87 ∧ device.workPending = false) := by
  cases copied : copyByteFromUser source with
  | none => simp [irqWrite, copied]
  | some command =>
    simp only [irqWrite, copied, runCommand, ne_eq, Option.some.injEq]
    by_cases tasklet : command = 84
    · simp [tasklet, taskletSchedule]
    · by_cases work : command = 87
      · simp [work, scheduleWork]
      · by_cases reset : command = 82
        · simp [reset, resetCounts]
        · simp [tasklet, work, reset]

/-- Every call keeps what is pending. -/
theorem pending_unrun_kept (history : List (Event Demo DemoCall)) (event : Event Demo DemoCall)
    (unrun : PendingUnrun history event.before) :
    PendingUnrun (history ++ [event]) (event.left demoStep) := by
  obtain ⟨demo, call⟩ := event
  obtain ⟨tasklet, work⟩ := unrun
  simp only [PendingUnrun, answered_append_singleton, ← tasklet, ← work]
  cases call with
  | releaseFile => simp [Event.left, demoStep, SchedulesTasklet, SchedulesWork]
  | openFile | read | irqCount | irqInfo | exit | exitReturns =>
    simp only [Event.left, demoStep, SchedulesTasklet, SchedulesWork]
    split <;> simp
  | triggerWork | triggerTasklet | resetCount =>
    simp only [Event.left, demoStep, Demo.store, SchedulesTasklet, SchedulesWork]
    split <;> simp_all [triggerWorkStore, triggerTaskletStore, resetCountStore, taskletSchedule,
      scheduleWork, resetCounts]
  | runTasklet | runWork =>
    simp only [Event.left, demoStep, SchedulesTasklet, SchedulesWork]
    split <;> simp_all [taskletFunc, workFunc]
  | write source size =>
    simp only [Event.left, demoStep, SchedulesTasklet, SchedulesWork]
    split
    · next isOpen => simp [isOpen, write_pending]
    · next closed => simp [closed]

/-- From an idle state, a write leaves the demo idle exactly when it is neither of the
commands that schedule. -/
theorem write_idle_iff (device : Device) (idle : Idle device) (source : UserSource) (size : Nat) :
    Idle (irqWrite device source size).1 ↔
      copyByteFromUser source ≠ some 84 ∧ copyByteFromUser source ≠ some 87 := by
  cases copied : copyByteFromUser source with
  | none => simpa [irqWrite, copied] using idle
  | some command =>
    simp only [irqWrite, copied, runCommand, ne_eq, Option.some.injEq]
    split
    · next schedules => simp [Idle, taskletSchedule, schedules]
    · split
      · next schedules => simp [Idle, scheduleWork, schedules]
      · next notTasklet notWork =>
        have stays : Idle (resetCounts device) := idle
        split
        · exact iff_of_true stays ⟨notTasklet, notWork⟩
        · exact iff_of_true idle ⟨notTasklet, notWork⟩

/-- A call leaves nothing behind in an unloaded demo exactly when it is settled.

Proof: before the unloading returns there is nothing to show, except by the call that
returns; afterwards only a write can schedule. -/
theorem demo_gone_iff (history : List (Event Demo DemoCall)) (event : Event Demo DemoCall)
    (unrun : PendingUnrun history event.before) (gone : DemoGone event.before) :
    DemoGone (event.left demoStep) ↔ DemoSettled history event := by
  obtain ⟨demo, call⟩ := event
  have enabled (condition : Prop) [Decidable condition] (next : Demo) (reply : Option Reply)
      (nextGone : condition → DemoGone next) :
      DemoGone (if condition then (next, reply) else (demo, none)).1 := by
    split
    · next holds => exact nextGone holds
    · exact gone
  have stored (handler : Device → Device × Int) : DemoGone (demo.store handler).1 :=
    enabled _ _ _ (fun loaded unloaded => by simp [loaded] at unloaded)
  cases call with
  | openFile => exact iff_of_true (enabled _ _ _ (fun _ => gone)) trivial
  | releaseFile => exact iff_of_true gone trivial
  | read room => exact iff_of_true (enabled _ _ _ (fun _ => gone)) trivial
  | write source size =>
    simp only [Event.left, demoStep, DemoSettled]
    split
    · next isOpen =>
      constructor
      · intro left unloaded _
        exact (write_idle_iff demo.device (gone unloaded) source size).mp (left unloaded)
      · intro settled unloaded
        exact (write_idle_iff demo.device (gone unloaded) source size).mpr
          (settled unloaded isOpen)
    · next closed => exact iff_of_true gone (fun _ isOpen => absurd isOpen closed)
  | irqCount => exact iff_of_true (enabled _ _ _ (fun _ => gone)) trivial
  | irqInfo => exact iff_of_true (enabled _ _ _ (fun _ => gone)) trivial
  | triggerWork count => exact iff_of_true (stored _) trivial
  | triggerTasklet count => exact iff_of_true (stored _) trivial
  | resetCount count => exact iff_of_true (stored _) trivial
  | runTasklet =>
    exact iff_of_true (enabled _ _ _ (fun _ unloaded => ⟨rfl, (gone unloaded).2⟩)) trivial
  | runWork =>
    exact iff_of_true (enabled _ _ _ (fun _ unloaded => ⟨(gone unloaded).1, rfl⟩)) trivial
  | exit =>
    exact iff_of_true (enabled _ _ _ (fun _ unloaded => by simp at unloaded)) trivial
  | exitReturns =>
    simp only [Event.left, demoStep, DemoSettled]
    split
    · next next =>
      have idle : Idle demo.device ↔ Executed history := and_congr unrun.1 unrun.2
      exact ⟨fun left _ => idle.mp (left rfl), fun settled _ => idle.mpr (settled next)⟩
    · next early => exact iff_of_true gone (fun next => absurd next early)

end Demo

section Sniffer

open KeyboardSniffer

/-- Once the sniffer is unloaded, its work item is not pending and its handler is not
on the line. -/
def SnifferGone (system : System) : Prop :=
  system.stage = .unloaded → system.workPending = false ∧ .kbWork ∉ system.handlers

/-- The call does not unload the sniffer. -/
def KeepsLoaded (event : Event System Call) : Prop :=
  event.call = .exit → event.before.stage ≠ .loaded

/-- An unloading, and nothing else, takes the sniffer to where it is unloaded. -/
theorem unloaded_iff (system : System) (call : Call) (present : system.stage ≠ .unloaded) :
    (step system call).1.stage = .unloaded ↔ ¬ KeepsLoaded ⟨system, call⟩ := by
  cases call with
  | init requested =>
    refine iff_of_false ?_ (fun unloads => unloads (by simp [KeepsLoaded]))
    simp only [step]
    split
    · cases requested with
      | some error => exact present
      | none => simp [keyboardDriverInit]
    · exact present
  | interrupt =>
    refine iff_of_false ?_ (fun unloads => unloads (by simp [KeepsLoaded]))
    simp only [step]
    split
    · exact present
    · exact present
  | runWork | otherRequest | otherFree =>
    exact iff_of_false present (fun unloads => unloads (by simp [KeepsLoaded]))
  | exit =>
    simp only [step]
    split
    · next loaded => exact iff_of_true rfl (fun keeps => keeps rfl loaded)
    · next absent => exact iff_of_false present (fun unloads => unloads (fun _ => absent))

/-- A call leaves nothing behind in an unloaded sniffer exactly when it does not
unload it: the handler stays on the line. -/
theorem sniffer_gone_iff (event : Event System Call) (registered : Registered event.before)
    (gone : SnifferGone event.before) :
    SnifferGone (event.left step) ↔ KeepsLoaded event := by
  obtain ⟨system, call⟩ := event
  have next := registered_kept system call registered
  have present : system.stage ≠ .unloaded := by
    intro unloaded
    exact (gone unloaded).2 (registered (by simp [show system.stage = _ from unloaded]))
  have leaves := unloaded_iff system call present
  constructor
  · intro left
    by_contra unloads
    have unloaded := leaves.mpr unloads
    exact (left unloaded).2 (next (by rw [unloaded]; simp))
  · exact fun keeps unloaded => absurd keeps (leaves.mp unloaded)

end Sniffer

/-- In every run of the demo, nothing of it is pending in any state after its unloading
has returned, exactly when its calls are all settled; and in every run of the sniffer,
neither its work item nor its handler is left in any state after its unloading, exactly
when it is never unloaded. -/
theorem nothing_left_iff (demoCalls : List DemoCall) (drivers : List Nat)
    (snifferCalls : List KeyboardSniffer.Call) :
    (AtEachState demoStep demoStart demoCalls (fun _ demo => DemoGone demo) ↔
        AtEachCall demoStep demoStart demoCalls DemoSettled) ∧
      ((∀ earlier, earlier <+: snifferCalls →
          SnifferGone (after KeyboardSniffer.step (KeyboardSniffer.start drivers) earlier)) ↔
        ∀ event ∈ trace KeyboardSniffer.step (KeyboardSniffer.start drivers) snifferCalls,
          KeepsLoaded event) := by
  constructor
  · exact history_throughout_iff demoStep PendingUnrun (fun _ demo => DemoGone demo)
      (fun _ _ => True) DemoSettled
      (fun history event unrun _ => pending_unrun_kept history event unrun)
      (fun history event unrun _ gone => demo_gone_iff history event unrun gone)
      demoStart demoCalls ⟨iff_of_true rfl (answered_nil _ _), iff_of_true rfl (answered_nil _ _)⟩
      (fun unloaded => by simp [demoStart] at unloaded) (fun _ _ _ => trivial)
  · exact throughout_iff KeyboardSniffer.step KeyboardSniffer.Registered SnifferGone KeepsLoaded
      KeyboardSniffer.registered_kept sniffer_gone_iff (KeyboardSniffer.start drivers) snifferCalls
      (fun present => absurd rfl present)
      (fun unloaded => by simp [KeyboardSniffer.start] at unloaded)

/-- A write schedules the tasklet, and the demo is unloaded before it runs. -/
def pendingAtExit : List DemoCall := [.openFile, .write (.ofBytes [84]) 1, .exit, .exitReturns]

/-- The tasklet is then pending without its module; and the sniffer, loaded and
unloaded, still has its handler on the line, which the next interrupt runs. -/
theorem tasklet_and_handler_left :
    (after demoStep demoStart pendingAtExit).stage = .unloaded ∧
      (after demoStep demoStart pendingAtExit).device.taskletPending = true ∧
      (after KeyboardSniffer.step (KeyboardSniffer.start []) [.init none, .exit]).handlers =
        [.kbWork] ∧
      (after KeyboardSniffer.step (KeyboardSniffer.start [])
        [.init none, .exit, .interrupt]).workPending = true ∧
      ¬ DemoGone (after demoStep demoStart pendingAtExit) ∧
      ¬ SnifferGone
        (after KeyboardSniffer.step (KeyboardSniffer.start []) [.init none, .exit]) := by
  refine ⟨by decide, by decide, by decide, by decide, ?_, ?_⟩
  · exact fun gone => absurd (gone (by decide)).1 (by decide)
  · exact fun gone => absurd (gone (by decide)).2 (by decide)

end LddExamples.DeferredWork
