import LddExamples.Runs

/-!
# The timer that starts itself again

`028_ktimer/kernel_timer.c`: a callback that counts and then makes its own timer pending
again, and an unloading that deletes the timer. A pending timer may expire at any time,
on another processor, so the steps of a callback and of the unloading come in any order;
nothing is said about how many callbacks run at a time. Deleting makes the timer not
pending, and does not wait for a callback.

A callback that has still to make the timer pending when it is deleted does so
afterwards. From then on the timer is pending, or a callback is about to make it so.
-/

namespace LddExamples.KernelTimer

open Runs

/-- What a running callback does next. -/
inductive Stage where
  | counting
  | rearming
  | returning
deriving DecidableEq

/-- How far `kernel_timer_cleanup` has come. -/
inductive Cleanup where
  | notStarted
  | deleted
  | returned
deriving DecidableEq

/-- Whether the timer is pending, the callbacks that run, their counter, and where unloading
is. -/
structure System where
  pending : Bool
  callbacks : List Stage
  timerCount : BitVec 32
  cleanup : Cleanup

/-- The expiry of the timer, the steps of the callbacks, and those of unloading. -/
inductive Action where
  | expire
  /-- The next step of a running callback. -/
  | callback (index : Nat)
  | delTimer
  | cleanupReturns

/-- `mod_timer` makes the timer pending, if it is not. The time to which it is set is left
out. -/
def modTimer (system : System) : System := { system with pending := true }

/-- `del_timer` takes a pending timer from the kernel. A callback that runs already goes on.
-/
def delTimer (system : System) : System := { system with pending := false }

/-- One step; one that is not enabled changes nothing. -/
def step (system : System) : Action → System × Unit
  | .expire =>
      if system.pending then
        ({ system with pending := false, callbacks := .counting :: system.callbacks }, ())
      else (system, ())
  | .callback index =>
      match system.callbacks[index]? with
      | none => (system, ())
      | some .counting =>
          ({ system with
              timerCount := system.timerCount + 1
              callbacks := system.callbacks.set index .rearming }, ())
      | some .rearming =>
          (modTimer { system with callbacks := system.callbacks.set index .returning }, ())
      | some .returning => ({ system with callbacks := system.callbacks.eraseIdx index }, ())
  | .delTimer =>
      if system.cleanup = .notStarted then
        ({ delTimer system with cleanup := .deleted }, ())
      else (system, ())
  | .cleanupReturns =>
      if system.cleanup = .deleted then ({ system with cleanup := .returned }, ())
      else (system, ())

/-- The module as `kernel_timer_init` leaves it. -/
def loaded : System := ⟨true, [], 0, .notStarted⟩

/-- Once the module is gone, its timer is not pending and no callback runs. -/
def Quiet (system : System) : Prop :=
  system.cleanup = .returned → system.pending = false ∧ system.callbacks = []

/-- The timer is deleted while no callback has still to make it pending, and unloading
returns while no callback runs. -/
def Calms (event : Event System Action) : Prop :=
  match event.call with
  | .delTimer =>
      event.before.cleanup = .notStarted → ∀ stage ∈ event.before.callbacks, stage = .returning
  | .cleanupReturns => event.before.cleanup = .deleted → event.before.callbacks = []
  | _ => True

/-- The timer expires, and a callback starts. -/
def starts (event : Event System Action) : Bool :=
  match event.call with
  | .expire => event.before.pending
  | _ => false

/-- A callback returns. -/
def ends (event : Event System Action) : Bool :=
  match event.call with
  | .callback index => event.before.callbacks[index]? = some .returning
  | _ => false

/-- The timer is deleted while no callback has still to make it pending, and unloading
returns once as many callbacks have returned as have started. -/
def Settled (history : List (Event System Action)) (event : Event System Action) : Prop :=
  match event.call with
  | .delTimer =>
      event.before.cleanup = .notStarted → ∀ stage ∈ event.before.callbacks, stage = .returning
  | .cleanupReturns =>
      event.before.cleanup = .deleted → history.countP starts = history.countP ends
  | _ => True

/-- The callbacks that run are those that have started and not returned. -/
def Accounted (history : List (Event System Action)) (system : System) : Prop :=
  history.countP ends + system.callbacks.length = history.countP starts

/-- The timer is pending, or a callback will make it so. -/
def Armed (system : System) : Prop :=
  system.pending = true ∨ ∃ stage ∈ system.callbacks, stage ≠ .returning

/-- What settled runs keep: after the deletion the timer stays as it is, and after the
return nothing runs. -/
structure Calm (system : System) : Prop where
  unarmed : system.cleanup ≠ .notStarted → ¬ Armed system
  idle : system.cleanup = .returned → system.callbacks = []

/-- What a step does. -/
inductive Effect (system : System) : Action → System → Prop
  | expired (up : system.pending = true) :
      Effect system .expire
        { system with pending := false, callbacks := .counting :: system.callbacks }
  | counted (index : Nat) (stage : system.callbacks[index]? = some .counting) :
      Effect system (.callback index)
        { system with
          timerCount := system.timerCount + 1
          callbacks := system.callbacks.set index .rearming }
  | rearmed (index : Nat) (stage : system.callbacks[index]? = some .rearming) :
      Effect system (.callback index)
        { system with pending := true, callbacks := system.callbacks.set index .returning }
  | ended (index : Nat) (stage : system.callbacks[index]? = some .returning) :
      Effect system (.callback index)
        { system with callbacks := system.callbacks.eraseIdx index }
  | deleted (first : system.cleanup = .notStarted) :
      Effect system .delTimer { system with pending := false, cleanup := .deleted }
  | returned (next : system.cleanup = .deleted) :
      Effect system .cleanupReturns { system with cleanup := .returned }
  | unchanged (action : Action) (late : action = .delTimer → system.cleanup ≠ .notStarted)
      (early : action = .cleanupReturns → system.cleanup ≠ .deleted) :
      Effect system action system

/-- Every step has one of these effects. -/
theorem step_effect (system : System) (action : Action) :
    Effect system action (step system action).1 := by
  cases action with
  | expire =>
    simp only [step]
    split
    · next up => exact .expired up
    · exact .unchanged .expire (by simp) (by simp)
  | callback index =>
    cases stage : system.callbacks[index]? with
    | none =>
      simp only [step, stage]
      exact .unchanged (.callback index) (by simp) (by simp)
    | some next =>
      cases next with
      | counting =>
        simp only [step, stage]
        exact .counted index stage
      | rearming =>
        simp only [step, stage]
        exact .rearmed index stage
      | returning =>
        simp only [step, stage]
        exact .ended index stage
  | delTimer =>
    simp only [step]
    split
    · next first => exact .deleted first
    · next late => exact .unchanged .delTimer (fun _ => late) (by simp)
  | cleanupReturns =>
    simp only [step]
    split
    · next first => exact .returned first
    · next early => exact .unchanged .cleanupReturns (by simp) (fun _ => early)

/-- A callback at some stage is one of those running. -/
theorem stage_mem (system : System) (index : Nat) (stage : Stage)
    (running : system.callbacks[index]? = some stage) : stage ∈ system.callbacks :=
  List.mem_of_getElem? running

/-- No step undoes that the timer has been deleted, and a timer that is armed after
that stays armed. -/
theorem armed_kept (system : System) (action : Action) (deleted : system.cleanup ≠ .notStarted)
    (armed : Armed system) :
    (step system action).1.cleanup ≠ .notStarted ∧ Armed (step system action).1 := by
  have effect := step_effect system action
  generalize (step system action).1 = next at effect ⊢
  cases effect with
  | expired up => exact ⟨deleted, Or.inr ⟨.counting, List.mem_cons_self, by simp⟩⟩
  | counted index stage =>
    have inside : index < system.callbacks.length := (List.getElem?_eq_some_iff.mp stage).1
    exact ⟨deleted, Or.inr ⟨.rearming, List.mem_set inside _, by simp⟩⟩
  | rearmed index stage => exact ⟨deleted, Or.inl rfl⟩
  | ended index stage =>
    refine ⟨deleted, ?_⟩
    rcases armed with up | ⟨other, member, rearms⟩
    · exact Or.inl up
    · obtain ⟨place, here⟩ := List.mem_iff_getElem?.mp member
      have apart : place ≠ index := by
        rintro rfl
        exact rearms (Option.some.inj (here.symm.trans stage))
      exact Or.inr ⟨other, List.mem_eraseIdx_iff_getElem?.mpr ⟨place, apart, here⟩, rearms⟩
  | deleted first => exact absurd first deleted
  | returned next => exact ⟨by simp, armed⟩
  | unchanged => exact ⟨deleted, armed⟩

/-- A step that calms the timer keeps what settled runs keep. -/
theorem calm_kept (event : Event System Action) (calm : Calm event.before)
    (settled : Calms event) : Calm (event.left step) := by
  obtain ⟨system, action⟩ := event
  have effect := step_effect system action
  simp only [Event.left]
  generalize (step system action).1 = next at effect ⊢
  have notArmed (stage : Stage) (member : stage ∈ system.callbacks) (rearms : stage ≠ .returning)
      (deleted : system.cleanup ≠ .notStarted) : False :=
    calm.unarmed deleted (Or.inr ⟨stage, member, rearms⟩)
  cases effect with
  | expired up =>
    have running : system.cleanup = .notStarted := by
      by_contra deleted
      exact calm.unarmed deleted (Or.inl up)
    exact ⟨fun deleted => absurd running deleted, fun gone => by simp [running] at gone⟩
  | counted index stage =>
    have member := stage_mem system index .counting stage
    refine ⟨fun deleted => (notArmed .counting member (by simp) deleted).elim, fun gone => ?_⟩
    exact (notArmed .counting member (by simp) (by simp [show system.cleanup = _ from gone])).elim
  | rearmed index stage =>
    have member := stage_mem system index .rearming stage
    refine ⟨fun deleted => (notArmed .rearming member (by simp) deleted).elim, fun gone => ?_⟩
    exact (notArmed .rearming member (by simp) (by simp [show system.cleanup = _ from gone])).elim
  | ended index stage =>
    constructor
    · rintro deleted (up | ⟨other, member, rearms⟩)
      · exact calm.unarmed deleted (Or.inl up)
      · exact notArmed other (List.mem_of_mem_eraseIdx member) rearms deleted
    · intro gone
      have none : system.callbacks = [] := calm.idle gone
      simp only [none, List.eraseIdx_nil]
  | deleted first =>
    refine ⟨?_, fun gone => by simp at gone⟩
    rintro - (up | ⟨other, member, rearms⟩)
    · exact Bool.false_ne_true up
    · exact rearms (settled first other member)
  | returned next =>
    refine ⟨fun _ => ?_, fun _ => settled next⟩
    exact calm.unarmed (by simp [show system.cleanup = _ from next])
  | unchanged => exact calm

/-- A timer that is still armed after its deletion is not quiet once the module is
gone. -/
theorem armed_not_quiet (system : System) (deleted : system.cleanup ≠ .notStarted)
    (armed : Armed system) (later : List Action)
    (gone : (after step system later).cleanup = .returned) : ¬ Quiet (after step system later) := by
  have stays := invariant_after step
    (fun system => system.cleanup ≠ .notStarted ∧ Armed system)
    (fun state action both => armed_kept state action both.1 both.2)
    system later ⟨deleted, armed⟩
  intro quiet
  obtain ⟨down, none⟩ := quiet gone
  rcases stays.2 with up | ⟨stage, running, _⟩
  · rw [down] at up
    exact Bool.false_ne_true up
  · rw [none] at running
    exact List.not_mem_nil running

/-- In a run that unloads the module and leaves it quiet, every step calms it.

Proof: a deletion that meets a callback with the timer still to start arms it for
good, and so the run does not end quiet; a return that meets a callback leaves a state
of the run that is not quiet. -/
theorem quiet_run_calms (calls : List Action)
    (quiet : AtEachState step loaded calls (fun _ system => Quiet system))
    (gone : (after step loaded calls).cleanup = .returned) :
    ∀ event ∈ trace step loaded calls, Calms event := by
  intro event member
  obtain ⟨earlier, ⟨later, whole⟩, before⟩ := (mem_trace_iff step loaded calls event).mp member
  obtain ⟨system, action⟩ := event
  subst before
  rw [← whole, after_append, after_append_singleton] at gone
  cases action with
  | expire => trivial
  | callback index => trivial
  | delTimer =>
    intro first stage running
    by_contra rearms
    have left : (step (after step loaded earlier) .delTimer).1 =
        { after step loaded earlier with pending := false, cleanup := .deleted } := by
      simp only [step, if_pos first, delTimer]
    rw [left] at gone
    apply armed_not_quiet _ _ _ later gone
    · have last := quiet calls List.prefix_rfl
      rwa [← whole, after_append, after_append_singleton, left] at last
    · simp
    · exact Or.inr ⟨stage, running, rearms⟩
  | cleanupReturns =>
    intro next
    have reached := quiet (earlier ++ [.cleanupReturns]) ⟨later, whole⟩
    rw [after_append_singleton] at reached
    simp only [step, if_pos next] at reached
    exact (reached rfl).2

/-- A run is quiet exactly when it does not come to the unloading or all its steps calm it. -/
theorem quiet_iff_calms (calls : List Action) :
    AtEachState step loaded calls (fun _ system => Quiet system) ↔
      ((after step loaded calls).cleanup = .returned →
        ∀ event ∈ trace step loaded calls, Calms event) := by
  constructor
  · exact quiet_run_calms calls
  · intro settled earlier isPrefix gone
    obtain ⟨later, whole⟩ := isPrefix
    have stays := invariant_after step (fun system => system.cleanup = .returned)
      (fun state action returned => ?_) (after step loaded earlier) later gone
    · rw [← after_append, whole] at stays
      have calm := invariant_along step Calm Calms calm_kept loaded earlier
        ⟨fun deleted => absurd rfl deleted, fun impossible => by simp [loaded] at impossible⟩
        (fun event member => settled stays event (by
          rw [← whole, trace_append]
          exact List.mem_append_left _ member))
      have idle := calm.1.idle gone
      have unarmed := calm.1.unarmed (by rw [gone]; simp)
      exact ⟨Bool.eq_false_iff.mpr (fun up => unarmed (Or.inl up)), idle⟩
    · have effect := step_effect state action
      generalize (step state action).1 = next at effect ⊢
      cases effect with
      | deleted first => simp [returned] at first
      | returned next => rfl
      | expired | counted | rearmed | ended | unchanged => exact returned

/-- Every step keeps the account of the callbacks. -/
theorem accounted_kept (history : List (Event System Action)) (event : Event System Action)
    (accounted : Accounted history event.before) :
    Accounted (history ++ [event]) (event.left step) := by
  obtain ⟨system, action⟩ := event
  simp only [Accounted, List.countP_append, List.countP_singleton] at accounted ⊢
  cases action with
  | expire =>
    by_cases up : system.pending = true
    · simp [Event.left, step, starts, ends, up]
      omega
    · simpa [Event.left, step, starts, ends, up] using accounted
  | callback index =>
    cases stage : system.callbacks[index]? with
    | none => simpa [Event.left, step, starts, ends, stage] using accounted
    | some next =>
      have inside : index < system.callbacks.length := (List.getElem?_eq_some_iff.mp stage).1
      cases next with
      | counting | rearming =>
        simpa [Event.left, step, starts, ends, stage, modTimer] using accounted
      | returning =>
        simp only [Event.left, step, starts, ends, stage, List.length_eraseIdx_of_lt inside,
          decide_true, if_true, Bool.false_eq_true, if_false]
        omega
  | delTimer =>
    by_cases first : system.cleanup = .notStarted
    · simpa [Event.left, step, starts, ends, first, delTimer] using accounted
    · simpa [Event.left, step, starts, ends, first] using accounted
  | cleanupReturns =>
    by_cases next : system.cleanup = .deleted
    · simpa [Event.left, step, starts, ends, next] using accounted
    · simpa [Event.left, step, starts, ends, next] using accounted

/-- A step calms the timer exactly when it is settled, by the account of the callbacks. -/
theorem settled_iff (history : List (Event System Action)) (event : Event System Action)
    (accounted : Accounted history event.before) : Calms event ↔ Settled history event := by
  obtain ⟨system, action⟩ := event
  cases action with
  | expire | callback | delTimer => exact Iff.rfl
  | cleanupReturns =>
    have account : history.countP ends + system.callbacks.length = history.countP starts :=
      accounted
    refine imp_congr_right fun _ => ?_
    rw [← List.length_eq_zero_iff]
    show system.callbacks.length = 0 ↔ history.countP starts = history.countP ends
    omega

/-- In every run, the timer is not pending and no callback runs in any state after the
unloading has returned, exactly when the run does not come so far or all its steps are
settled. -/
theorem quiet_after_unload_iff (calls : List Action) :
    AtEachState step loaded calls (fun _ system => Quiet system) ↔
      ((after step loaded calls).cleanup = .returned → AtEachCall step loaded calls Settled) := by
  rw [quiet_iff_calms]
  refine imp_congr_right fun _ => ?_
  rw [← at_each_call_iff step loaded calls Calms]
  exact at_each_call_congr step Accounted _ _ accounted_kept settled_iff loaded calls rfl

/-- The callback starts, the timer is deleted, and the module is gone before the
callback makes the timer pending again. -/
def lateCallback : List Action :=
  [.expire, .callback 0, .delTimer, .cleanupReturns, .callback 0, .callback 0, .expire]

/-- Afterwards the timer expires, and its callback starts in a module that is gone. -/
theorem callback_after_unload :
    (after step loaded lateCallback).cleanup = .returned ∧
      (after step loaded lateCallback).callbacks = [.counting] ∧
      ¬ AtEachState step loaded lateCallback (fun _ system => Quiet system) := by
  refine ⟨by decide, by decide, fun quiet => ?_⟩
  have idle := (quiet lateCallback List.prefix_rfl (by decide)).2
  exact absurd idle (by decide)

end LddExamples.KernelTimer
