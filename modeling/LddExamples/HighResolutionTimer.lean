import LddExamples.Runs

/-!
# The high-resolution timer that is restarted

`029_hrt_ktimer/hrt_timer.c`: a timer that first expires a second after it is started, and
whose callback moves its expiry on by half seconds, past the present time, and asks for a
restart. Unlike the deletion of the other timer, a cancellation waits while the callback runs.
Times are in nanoseconds; the log is left out.

The timers themselves are the kernel's. What is relied on is what the kernel documents of them:
a callback starts at its expiry or later, one at a time; a forwarded expiry lies after the
present by whole intervals and by no more of them than it takes; a restarted timer is queued
again at its expiry; and a cancellation takes an active timer out and says so. Every law is about
any timers that do this, and one such implementation is given.
-/

namespace LddExamples.HighResolutionTimer

open Runs

/-- The high-resolution timers of a kernel: when a timer expires, whether it is queued, and
whether its callback runs. Times are absolute. -/
structure Hrtimers where
  Timer : Type
  expires : Timer → Nat
  queued : Timer → Bool
  running : Timer → Bool
  /-- `hrtimer_start` of an initialised timer, with the time at which it is to expire. -/
  start : (expires : Nat) → Timer
  /-- The kernel starts the callback at this time, if it can. -/
  expire : (now : Nat) → Timer → Option Timer
  /-- `hrtimer_forward_now`, called by the callback. -/
  forwardNow : (now interval : Nat) → Timer → Timer
  /-- The callback has returned `HRTIMER_RESTART`. -/
  restart : Timer → Timer
  /-- `hrtimer_cancel`, with its return value; none while it waits. -/
  cancel : Timer → Option (Timer × Int)

/-- What the kernel documents of its timers, as far as the module relies on it. -/
structure Hrtimers.Documented (timers : Hrtimers) : Prop where
  started : ∀ expires, timers.expires (timers.start expires) = expires ∧
    timers.queued (timers.start expires) = true ∧ timers.running (timers.start expires) = false
  expired : ∀ now timer next, timers.expire now timer = some next →
    timers.queued timer = true ∧ timers.running timer = false ∧ timers.expires timer ≤ now ∧
      timers.expires next = timers.expires timer ∧ timers.running next = true
  forwarded : ∀ now interval timer, 0 < interval → timers.running timer = true →
    timers.running (timers.forwardNow now interval timer) = true ∧
      now < timers.expires (timers.forwardNow now interval timer) ∧
      (timers.expires timer ≤ now →
        timers.expires (timers.forwardNow now interval timer) ≤ now + interval) ∧
      ∃ turns, timers.expires (timers.forwardNow now interval timer) =
        timers.expires timer + turns * interval
  restarted : ∀ timer, timers.running timer = true →
    timers.expires (timers.restart timer) = timers.expires timer ∧
      timers.queued (timers.restart timer) = true ∧ timers.running (timers.restart timer) = false
  cancelled : ∀ timer next ret, timers.cancel timer = some (next, ret) →
    timers.running timer = false ∧ ret = (if timers.queued timer then 1 else 0) ∧
      timers.queued next = false ∧ timers.running next = false
  waits : ∀ timer, timers.cancel timer = none → timers.running timer = true

/-- Where the code of the callback is. -/
inductive Callback where
  | idle
  | called
  | forwarded
deriving DecidableEq

/-- How far `hrt_timer_exit` has come; `hrtimer_cancel` returns whether the timer was active. -/
inductive Exit where
  | notStarted
  | cancelling
  | returned (ret : Int)
deriving DecidableEq

/-- The clock, the timer of the module, and where its code is. -/
structure System (timers : Hrtimers) where
  now : Nat
  timer : timers.Timer
  callback : Callback
  exit : Exit

/-- Time passes, the kernel expires the timer, and the callback and the exit take their steps. -/
inductive Action where
  | tick (elapsed : Nat)
  | expire
  | forward
  | callbackReturns
  | exitStarts
  | cancelReturns

/-- `ktime_set(1, 0)` -/
def firstDelay : Nat := 1000000000

/-- `ktime_set(0, 500000000)` -/
def interval : Nat := 500000000

variable (timers : Hrtimers)

/-- One step; one that is not enabled, or that has to wait, changes nothing. -/
def step (system : System timers) : Action → System timers × Unit
  | .tick elapsed => ({ system with now := system.now + elapsed }, ())
  | .expire =>
      match timers.expire system.now system.timer with
      | some timer => ({ system with timer := timer, callback := .called }, ())
      | none => (system, ())
  | .forward =>
      if system.callback = .called then
        ({ system with
            timer := timers.forwardNow system.now interval system.timer
            callback := .forwarded }, ())
      else (system, ())
  | .callbackReturns =>
      if system.callback = .forwarded then
        ({ system with timer := timers.restart system.timer, callback := .idle }, ())
      else (system, ())
  | .exitStarts =>
      if system.exit = .notStarted then ({ system with exit := .cancelling }, ()) else (system, ())
  | .cancelReturns =>
      if system.exit = .cancelling then
        match timers.cancel system.timer with
        | some (timer, ret) => ({ system with timer := timer, exit := .returned ret }, ())
        | none => (system, ())
      else (system, ())

/-- The module as `hrt_timer_init` leaves it, at the time at which it starts the timer. -/
def start (begun : Nat) : System timers :=
  ⟨begun, timers.start (begun + firstDelay), .idle, .notStarted⟩

/-- When the step starts a callback. -/
def startTime (event : Event (System timers) Action) : Option Nat :=
  match event.call with
  | .expire =>
      if (timers.expire event.before.now event.before.timer).isSome then some event.before.now
      else none
  | _ => none

/-- When the callbacks of a history started, in order. -/
def startTimes (history : List (Event (System timers) Action)) : List Nat :=
  history.filterMap (startTime timers)

/-- The first expiry is the first point of a grid of half seconds. -/
def gridPoint (begun turns : Nat) : Nat := begun + firstDelay + turns * interval

/-- The half second of the grid in which a time lies. -/
def halfSecond (begun time : Nat) : Nat := (time - (begun + firstDelay)) / interval

/-- A time before a point of the grid lies in an earlier half second. -/
theorem half_second_lt (begun time turns : Nat) (before : time < gridPoint begun turns)
    (some : begun + firstDelay ≤ time) : halfSecond begun time < turns := by
  rw [halfSecond, Nat.div_lt_iff_lt_mul (by decide)]
  rw [gridPoint] at before
  omega

/-- A time that is not before a point of the grid lies in no earlier half second. -/
theorem le_half_second (begun time turns : Nat) (after : gridPoint begun turns ≤ time) :
    turns ≤ halfSecond begun time := by
  rw [halfSecond, Nat.le_div_iff_mul_le (by decide)]
  rw [gridPoint] at after
  omega

/-- Callbacks in different half seconds are as late as their number says. -/
theorem index_le_half_second (begun : Nat) (times : List Nat) (first : Nat)
    (apart : times.Pairwise fun earlier later => halfSecond begun earlier < halfSecond begun later)
    (least : ∀ time ∈ times, first ≤ halfSecond begun time) (index time : Nat)
    (here : times[index]? = some time) : first + index ≤ halfSecond begun time := by
  induction times generalizing first index with
  | nil => simp at here
  | cons earliest rest inductionHypothesis =>
    cases index with
    | zero =>
      obtain rfl : earliest = time := Option.some.inj here
      exact least _ List.mem_cons_self
    | succ index =>
      obtain ⟨before, apart⟩ := List.pairwise_cons.mp apart
      have bound := least earliest List.mem_cons_self
      have later := inductionHypothesis (first + 1) apart
        (fun other member => Nat.succ_le_of_lt (Nat.lt_of_le_of_lt bound (before other member)))
        index here
      omega

/-- What every run keeps. The callbacks were in different half seconds, and the expiry is a point
of the grid beyond them, unless a callback has still to move it; it is the first point or at most
an interval away; and the timer is active until the cancellation, which has found it so. -/
structure Punctual (begun : Nat) (times : List Nat) (system : System timers) : Prop where
  apart : times.Pairwise fun earlier later => halfSecond begun earlier < halfSecond begun later
  past : ∀ time ∈ times, begun + firstDelay ≤ time ∧ time ≤ system.now
  runs : timers.running system.timer = true ↔ system.callback ≠ .idle
  schedule : (∀ ret, system.exit ≠ .returned ret) → ∃ turns,
    timers.expires system.timer = gridPoint begun turns ∧
      (system.callback ≠ .called → ∀ time ∈ times, halfSecond begun time < turns)
  soon : (∀ ret, system.exit ≠ .returned ret) →
    timers.expires system.timer ≤ begun + firstDelay ∨
      timers.expires system.timer ≤ system.now + interval
  passed : system.callback = .called → timers.expires system.timer ≤ system.now
  active : (∀ ret, system.exit ≠ .returned ret) →
    timers.queued system.timer = true ∨ timers.running system.timer = true
  cancelled : ∀ ret, system.exit = .returned ret → ret = 1 ∧
    timers.queued system.timer = false ∧ timers.running system.timer = false

/-- What a step does, and when it starts a callback. -/
inductive Effect (system : System timers) : Action → Option Nat → System timers → Prop
  | passed (elapsed : Nat) :
      Effect system (.tick elapsed) none { system with now := system.now + elapsed }
  | expired (next : timers.Timer) (starts : timers.expire system.now system.timer = some next) :
      Effect system .expire (some system.now) { system with timer := next, callback := .called }
  | moved (called : system.callback = .called) :
      Effect system .forward none
        { system with
          timer := timers.forwardNow system.now interval system.timer
          callback := .forwarded }
  | restarted (forwarded : system.callback = .forwarded) :
      Effect system .callbackReturns none
        { system with timer := timers.restart system.timer, callback := .idle }
  | started (first : system.exit = .notStarted) :
      Effect system .exitStarts none { system with exit := .cancelling }
  | cancelled (next : timers.Timer) (ret : Int) (waits : system.exit = .cancelling)
      (ends : timers.cancel system.timer = some (next, ret)) :
      Effect system .cancelReturns none { system with timer := next, exit := .returned ret }
  | unchanged (action : Action) : Effect system action none system

/-- Every step has one of these effects. -/
theorem step_effect (system : System timers) (action : Action) :
    Effect timers system action (startTime timers ⟨system, action⟩)
      (step timers system action).1 := by
  cases action with
  | tick elapsed => exact .passed elapsed
  | expire =>
    cases starts : timers.expire system.now system.timer with
    | none =>
      simp only [step, startTime, starts]
      exact .unchanged .expire
    | some next =>
      simp only [step, startTime, starts]
      exact .expired next starts
  | forward =>
    simp only [step, startTime]
    split
    · next called => exact .moved called
    · exact .unchanged .forward
  | callbackReturns =>
    simp only [step, startTime]
    split
    · next forwarded => exact .restarted forwarded
    · exact .unchanged .callbackReturns
  | exitStarts =>
    simp only [step, startTime]
    split
    · next first => exact .started first
    · exact .unchanged .exitStarts
  | cancelReturns =>
    simp only [step, startTime]
    split
    · next waits =>
      cases ends : timers.cancel system.timer with
      | none => exact .unchanged .cancelReturns
      | some result =>
        obtain ⟨next, ret⟩ := result
        exact .cancelled next ret waits ends
    · exact .unchanged .cancelReturns

/-- One more event adds the time of the callback that it starts. -/
theorem start_times_append (history : List (Event (System timers) Action))
    (event : Event (System timers) Action) :
    startTimes timers (history ++ [event]) =
      startTimes timers history ++ (startTime timers event).toList := by
  rw [startTimes, List.filterMap_append]
  cases time : startTime timers event <;> simp [startTimes, time]

section Steps

variable (documented : timers.Documented) (begun : Nat) (times : List Nat)
  (system : System timers) (punctual : Punctual timers begun times system)
include punctual

/-- A timer that is queued, or whose callback runs, has not been cancelled. -/
theorem not_cancelled
    (active : timers.queued system.timer = true ∨ timers.running system.timer = true)
    (ret : Int) : system.exit ≠ .returned ret := by
  intro gone
  obtain ⟨_, unqueued, idle⟩ := punctual.cancelled ret gone
  rcases active with queued | running
  · exact Bool.false_ne_true (unqueued.symm.trans queued)
  · exact Bool.false_ne_true (idle.symm.trans running)

/-- Time that passes brings nothing back. -/
theorem punctual_passed (elapsed : Nat) :
    Punctual timers begun times { system with now := system.now + elapsed } := by
  have later : system.now ≤ system.now + elapsed := Nat.le_add_right _ _
  refine ⟨punctual.apart, fun time member => ?_, punctual.runs, punctual.schedule, fun still => ?_,
    fun called => Nat.le_trans (punctual.passed called) later, punctual.active,
    punctual.cancelled⟩
  · obtain ⟨after, before⟩ := punctual.past time member
    exact ⟨after, Nat.le_trans before later⟩
  · exact (punctual.soon still).imp_right fun near =>
      Nat.le_trans near (Nat.add_le_add_right later _)

/-- The exit begins without an effect on the timer. -/
theorem punctual_started (first : system.exit = .notStarted) :
    Punctual timers begun times { system with exit := .cancelling } := by
  have still (ret : Int) : system.exit ≠ .returned ret := by simp [first]
  exact ⟨punctual.apart, punctual.past, punctual.runs, fun _ => punctual.schedule still,
    fun _ => punctual.soon still, punctual.passed, fun _ => punctual.active still, by simp⟩

include documented

/-- A callback that starts is not before the expiry, so that it lies in a later half second than
all those before it. -/
theorem punctual_expired (next : timers.Timer)
    (starts : timers.expire system.now system.timer = some next) :
    Punctual timers begun (times ++ [system.now])
      { system with timer := next, callback := .called } := by
  obtain ⟨queued, idle, due, same, running⟩ := documented.expired _ _ _ starts
  have notLater : timers.expires next ≤ timers.expires system.timer := Nat.le_of_eq same
  have still := not_cancelled timers begun times system punctual (Or.inl queued)
  obtain ⟨turns, grid, beyond⟩ := punctual.schedule still
  have waits : system.callback ≠ .called := by
    intro called
    have runs := punctual.runs.mpr (by simp [called])
    exact Bool.false_ne_true (idle.symm.trans runs)
  have here : turns ≤ halfSecond begun system.now :=
    le_half_second begun system.now turns (grid ▸ due)
  have after : begun + firstDelay ≤ system.now := by
    have point := grid ▸ due
    rw [gridPoint] at point
    omega
  refine ⟨?_, fun time member => ?_, iff_of_true running (by simp),
    fun _ => ⟨turns, same.trans grid, fun other => absurd rfl other⟩,
    fun _ => (punctual.soon still).imp (Nat.le_trans notLater) (Nat.le_trans notLater),
    fun _ => Nat.le_trans notLater due, fun _ => Or.inr running,
    fun ret gone => absurd gone (still ret)⟩
  · rw [List.pairwise_append]
    refine ⟨punctual.apart, List.pairwise_singleton _ _, fun time member last isLast => ?_⟩
    rw [List.mem_singleton.mp isLast]
    exact Nat.lt_of_lt_of_le (beyond waits time member) here
  · rcases List.mem_append.mp member with earlier | last
    · exact punctual.past time earlier
    · rw [List.mem_singleton.mp last]
      exact ⟨after, Nat.le_refl _⟩

/-- A forwarded expiry is a point of the grid after the present, and so beyond every callback. -/
theorem punctual_moved (called : system.callback = .called) :
    Punctual timers begun times
      { system with
        timer := timers.forwardNow system.now interval system.timer
        callback := .forwarded } := by
  have running : timers.running system.timer = true := punctual.runs.mpr (by simp [called])
  have still := not_cancelled timers begun times system punctual (Or.inr running)
  obtain ⟨turns, grid, _⟩ := punctual.schedule still
  obtain ⟨runs, future, near, more, moved⟩ :=
    documented.forwarded system.now interval system.timer (by decide) running
  have point : timers.expires (timers.forwardNow system.now interval system.timer) =
      gridPoint begun (turns + more) := by
    rw [moved, grid, gridPoint, gridPoint, Nat.add_mul, Nat.add_assoc]
  refine ⟨punctual.apart, punctual.past, iff_of_true runs (by simp),
    fun _ => ⟨turns + more, point, fun _ time member => ?_⟩,
    fun _ => Or.inr (near (punctual.passed called)), by simp, fun _ => Or.inr runs,
    fun ret gone => absurd gone (still ret)⟩
  obtain ⟨after, before⟩ := punctual.past time member
  exact half_second_lt begun time _ (point ▸ Nat.lt_of_le_of_lt before future) after

/-- A callback that returns leaves the timer queued at its expiry. -/
theorem punctual_restarted (forwarded : system.callback = .forwarded) :
    Punctual timers begun times
      { system with timer := timers.restart system.timer, callback := .idle } := by
  have running : timers.running system.timer = true := punctual.runs.mpr (by simp [forwarded])
  have still := not_cancelled timers begun times system punctual (Or.inr running)
  obtain ⟨same, queued, idle⟩ := documented.restarted system.timer running
  have notLater : timers.expires (timers.restart system.timer) ≤ timers.expires system.timer :=
    Nat.le_of_eq same
  obtain ⟨turns, grid, beyond⟩ := punctual.schedule still
  exact ⟨punctual.apart, punctual.past, by simp [idle],
    fun _ => ⟨turns, same.trans grid, fun _ => beyond (by simp [forwarded])⟩,
    fun _ => (punctual.soon still).imp (Nat.le_trans notLater) (Nat.le_trans notLater), by simp,
    fun _ => Or.inl queued, fun ret gone => absurd gone (still ret)⟩

/-- A cancellation returns while no callback runs, and has found the timer queued. -/
theorem punctual_cancelled (next : timers.Timer) (ret : Int) (waits : system.exit = .cancelling)
    (ends : timers.cancel system.timer = some (next, ret)) :
    Punctual timers begun times { system with timer := next, exit := .returned ret } := by
  obtain ⟨idle, told, unqueued, stopped⟩ := documented.cancelled _ _ _ ends
  have still (ret : Int) : system.exit ≠ .returned ret := by simp [waits]
  have queued : timers.queued system.timer = true :=
    (punctual.active still).resolve_right (by simp [idle])
  have rest : system.callback = .idle := by
    by_contra busy
    exact Bool.false_ne_true (idle.symm.trans (punctual.runs.mpr busy))
  rw [if_pos queued] at told
  refine ⟨punctual.apart, punctual.past, by simp [stopped, rest], fun gone => absurd rfl (gone ret),
    fun gone => absurd rfl (gone ret), by simp [rest], fun gone => absurd rfl (gone ret),
    fun other same => ?_⟩
  exact ⟨(Exit.returned.inj same).symm.trans told, unqueued, stopped⟩

/-- Every step keeps what a run keeps. -/
theorem punctual_kept (action : Action) :
    Punctual timers begun (times ++ (startTime timers ⟨system, action⟩).toList)
      (step timers system action).1 := by
  have effect := step_effect timers system action
  generalize startTime timers ⟨system, action⟩ = time at effect ⊢
  generalize (step timers system action).1 = next at effect ⊢
  cases effect with
  | expired next starts =>
    exact punctual_expired timers documented begun times system punctual next starts
  | passed elapsed =>
    rw [Option.toList_none, List.append_nil]
    exact punctual_passed timers begun times system punctual elapsed
  | moved called =>
    rw [Option.toList_none, List.append_nil]
    exact punctual_moved timers documented begun times system punctual called
  | restarted forwarded =>
    rw [Option.toList_none, List.append_nil]
    exact punctual_restarted timers documented begun times system punctual forwarded
  | started first =>
    rw [Option.toList_none, List.append_nil]
    exact punctual_started timers begun times system punctual first
  | cancelled next ret waits ends =>
    rw [Option.toList_none, List.append_nil]
    exact punctual_cancelled timers documented begun times system punctual next ret waits ends
  | unchanged =>
    rw [Option.toList_none, List.append_nil]
    exact punctual

end Steps

section Runs

variable (documented : timers.Documented)
include documented

/-- Every run is punctual. -/
theorem run_punctual (begun : Nat) (actions : List Action) :
    AtEachState (step timers) (start timers begun) actions fun history system =>
      Punctual timers begun (startTimes timers history) system := by
  obtain ⟨expires, queued, idle⟩ := documented.started (begun + firstDelay)
  refine history_along (step timers) _ (fun _ _ => True) (fun history event punctual _ => ?_)
    (start timers begun) actions ?_ (fun _ _ _ => trivial)
  · rw [start_times_append]
    exact punctual_kept timers documented begun _ event.before punctual event.call
  · refine ⟨List.Pairwise.nil, by simp [startTimes], by simp [start, idle], fun _ =>
      ⟨0, ?_, by simp [startTimes]⟩, fun _ => Or.inl (Nat.le_of_eq expires), by simp [start],
      fun _ => Or.inl queued, by simp [start]⟩
    rw [gridPoint, Nat.zero_mul]
    exact expires

/-- A timer that was cancelled starts no callback. -/
theorem cancelled_silent (begun : Nat) (times : List Nat) (system : System timers) (ret : Int)
    (punctual : Punctual timers begun times system) (gone : system.exit = .returned ret)
    (later : List Action) :
    startTimes timers (trace (step timers) system later) = [] := by
  have quiet (state : System timers) (action : Action)
      (still : timers.queued state.timer = false ∧ state.callback = .idle ∧
        state.exit = .returned ret) :
      startTime timers ⟨state, action⟩ = none ∧
        timers.queued (step timers state action).1.timer = false ∧
        (step timers state action).1.callback = .idle ∧
        (step timers state action).1.exit = .returned ret := by
    obtain ⟨unqueued, idle, returned⟩ := still
    have effect := step_effect timers state action
    generalize startTime timers ⟨state, action⟩ = time at effect ⊢
    generalize (step timers state action).1 = next at effect ⊢
    cases effect with
    | expired next starts =>
      have queued := (documented.expired _ _ _ starts).1
      exact absurd (unqueued.symm.trans queued) Bool.false_ne_true
    | moved called => exact absurd (idle.symm.trans called) (by decide)
    | restarted forwarded => exact absurd (idle.symm.trans forwarded) (by decide)
    | started first => exact absurd (returned.symm.trans first) (by simp)
    | cancelled next told waits ends => exact absurd (returned.symm.trans waits) (by simp)
    | passed | unchanged => exact ⟨rfl, unqueued, idle, returned⟩
  obtain ⟨_, unqueued, stopped⟩ := punctual.cancelled ret gone
  have idle : system.callback = .idle := by
    by_contra busy
    exact Bool.false_ne_true (stopped.symm.trans (punctual.runs.mpr busy))
  rw [startTimes, List.filterMap_eq_nil_iff]
  intro event member
  have still := invariant_met (step timers) _
    (fun state action holds => (quiet state action holds).2) system later ⟨unqueued, idle, gone⟩
    event member
  exact (quiet event.before event.call still).1

/-- More steps keep what every run keeps. -/
theorem after_punctual (begun : Nat) (times : List Nat) (system : System timers)
    (punctual : Punctual timers begun times system) (later : List Action) :
    ∃ more, Punctual timers begun more (after (step timers) system later) := by
  induction later generalizing times system with
  | nil => exact ⟨times, punctual⟩
  | cons action rest inductionHypothesis =>
    exact inductionHypothesis _ _
      (punctual_kept timers documented begun times system punctual action)

/-- An exit that has not returned can do so once the callback has. -/
theorem exit_can_return (begun : Nat) (times : List Nat) (system : System timers)
    (punctual : Punctual timers begun times system) (still : ∀ ret, system.exit ≠ .returned ret) :
    ∃ ret, (after (step timers) system
      ([.exitStarts, .forward, .callbackReturns] ++ [.cancelReturns])).exit = .returned ret := by
  rw [after_append]
  obtain ⟨more, kept⟩ := after_punctual timers documented begun times system punctual
    [.exitStarts, .forward, .callbackReturns]
  obtain ⟨rest, waits⟩ : (after (step timers) system
      [.exitStarts, .forward, .callbackReturns]).callback = .idle ∧ (after (step timers) system
      [.exitStarts, .forward, .callbackReturns]).exit = .cancelling := by
    obtain ⟨now, timer, callback, exit⟩ := system
    cases exit with
    | returned ret => exact absurd rfl (still ret)
    | notStarted | cancelling => cases callback <;> exact ⟨rfl, rfl⟩
  generalize after (step timers) system [.exitStarts, .forward, .callbackReturns] = state at *
  have idle : timers.running state.timer = false :=
    Bool.eq_false_iff.mpr fun running => kept.runs.mp running rest
  cases ends : timers.cancel state.timer with
  | none => exact absurd (idle.symm.trans (documented.waits _ ends)) Bool.false_ne_true
  | some result => exact ⟨result.2, by simp [step, waits, ends]⟩

end Runs

/-- The step moves the expiry on. -/
def Forwards (event : Event (System timers) Action) : Prop :=
  event.call = .forward ∧ event.before.callback = .called

/-- A callback that moves the expiry on puts it after the present, by half a second at most. -/
theorem forwards_ahead (documented : timers.Documented) (begun : Nat) (times : List Nat)
    (event : Event (System timers) Action)
    (punctual : Punctual timers begun times event.before) (forwards : Forwards timers event) :
    event.before.now < timers.expires (event.left (step timers)).timer ∧
      timers.expires (event.left (step timers)).timer ≤ event.before.now + interval := by
  obtain ⟨system, action⟩ := event
  obtain ⟨call, called⟩ := forwards
  simp only at call called punctual
  subst call
  have running : timers.running system.timer = true := punctual.runs.mpr (by simp [called])
  obtain ⟨_, future, near, _⟩ :=
    documented.forwarded system.now interval system.timer (by decide) running
  simp only [Event.left, step, if_pos called]
  exact ⟨future, near (punctual.passed called)⟩

/-- For every run on timers that do what is documented. The callback with a number does not start
before the second and the half seconds that come before it, and no two start in the same half
second, so that a callback that comes late is not made up for: each moves the expiry to the first
point of the grid after the present. Until the exit has returned, the expiry is on the grid and is
the first point or at most half a second away. The exit has returned or can still return; and if
it has returned, it was told that the timer was active, and no callback follows. -/
theorem callbacks_on_schedule (documented : timers.Documented) (begun : Nat)
    (actions : List Action) :
    AtEachState (step timers) (start timers begun) actions fun history system =>
      (∀ index time, (startTimes timers history)[index]? = some time →
          begun + firstDelay + index * interval ≤ time) ∧
        ((startTimes timers history).Pairwise fun earlier later =>
          halfSecond begun earlier < halfSecond begun later) ∧
        (∀ event ∈ history, Forwards timers event →
          event.before.now < timers.expires (event.left (step timers)).timer ∧
            timers.expires (event.left (step timers)).timer ≤ event.before.now + interval) ∧
        ((∀ ret, system.exit ≠ .returned ret) →
          (∃ turns, timers.expires system.timer = begun + firstDelay + turns * interval) ∧
            (timers.expires system.timer ≤ begun + firstDelay ∨
              timers.expires system.timer ≤ system.now + interval) ∧
            ∃ later ret, (after (step timers) system later).exit = .returned ret) ∧
        ∀ ret, system.exit = .returned ret →
          ret = 1 ∧ ∀ later, startTimes timers (trace (step timers) system later) = [] := by
  have along := run_punctual timers documented begun actions
  intro earlier isPrefix
  have punctual := along earlier isPrefix
  refine ⟨fun index time here => ?_, punctual.apart, fun event member forwards => ?_,
    fun still => ?_, fun ret gone => ?_⟩
  · have late := index_le_half_second begun _ 0 punctual.apart (fun _ _ => Nat.zero_le _) index time
      here
    have after := (punctual.past time (List.mem_of_getElem? here)).1
    rw [Nat.zero_add, halfSecond, Nat.le_div_iff_mul_le (by decide)] at late
    omega
  · obtain ⟨before, within, same⟩ := (mem_trace_iff _ _ _ event).mp member
    have met := along before ((List.prefix_append _ _).trans (within.trans isPrefix))
    rw [← same] at met
    exact forwards_ahead timers documented begun _ event met forwards
  · obtain ⟨turns, grid, _⟩ := punctual.schedule still
    exact ⟨⟨turns, grid⟩, punctual.soon still,
      _, exit_can_return timers documented begun _ _ punctual still⟩
  · exact ⟨(punctual.cancelled ret gone).1, fun later =>
      cancelled_silent timers documented begun _ _ ret punctual gone later⟩

/-- A timer as such a kernel may keep it. -/
structure PlainTimer where
  expires : Nat
  queued : Bool
  running : Bool

/-- An expiry that has passed is moved to the first multiple after the present. -/
def PlainTimer.forwardNow (now interval : Nat) (timer : PlainTimer) : PlainTimer :=
  if now < timer.expires then timer
  else { timer with expires := timer.expires + ((now - timer.expires) / interval + 1) * interval }

/-- Timers that do what is documented: a forwarded expiry skips the intervals that have passed, and
a cancellation waits for the callback. -/
def plainTimers : Hrtimers where
  Timer := PlainTimer
  expires timer := timer.expires
  queued timer := timer.queued
  running timer := timer.running
  start expires := ⟨expires, true, false⟩
  expire now timer :=
    if timer.queued = true ∧ timer.running = false ∧ timer.expires ≤ now then
      some { timer with queued := false, running := true }
    else none
  forwardNow now interval timer := timer.forwardNow now interval
  restart timer := { timer with queued := true, running := false }
  cancel timer :=
    if timer.running then none
    else some ({ timer with queued := false }, if timer.queued then 1 else 0)

/-- A forwarded expiry lies after the present, by an interval at most if it has passed. -/
theorem plain_forward (now interval : Nat) (timer : PlainTimer) (positive : 0 < interval) :
    (timer.forwardNow now interval).running = timer.running ∧
      now < (timer.forwardNow now interval).expires ∧
      (timer.expires ≤ now → (timer.forwardNow now interval).expires ≤ now + interval) ∧
      ∃ turns, (timer.forwardNow now interval).expires = timer.expires + turns * interval := by
  by_cases early : now < timer.expires
  · rw [PlainTimer.forwardNow, if_pos early]
    exact ⟨rfl, early, fun passed => absurd early (Nat.not_lt.mpr passed), 0, by simp⟩
  · have division := Nat.div_add_mod (now - timer.expires) interval
    have remainder : (now - timer.expires) % interval < interval := Nat.mod_lt _ positive
    have moved : ((now - timer.expires) / interval + 1) * interval =
        interval * ((now - timer.expires) / interval) + interval := by
      rw [Nat.succ_mul, Nat.mul_comm]
    rw [PlainTimer.forwardNow, if_neg early]
    exact ⟨rfl, by simp only [moved]; omega, fun _ => by simp only [moved]; omega, _, rfl⟩

/-- These timers are an instance of what every law of the module is about. -/
theorem plain_documented : plainTimers.Documented where
  started expires := ⟨rfl, rfl, rfl⟩
  expired now timer next starts := by
    simp only [plainTimers] at starts
    split at starts
    · next due =>
      obtain rfl := Option.some.inj starts
      exact ⟨due.1, due.2.1, due.2.2, rfl, rfl⟩
    · cases starts
  forwarded now interval timer positive running := by
    obtain ⟨same, ahead⟩ := plain_forward now interval timer positive
    exact ⟨same.trans running, ahead⟩
  restarted timer running := ⟨rfl, rfl, rfl⟩
  cancelled timer next ret ends := by
    simp only [plainTimers] at ends
    split at ends
    · cases ends
    · next idle =>
      obtain ⟨rfl, rfl⟩ := Prod.mk.inj (Option.some.inj ends)
      exact ⟨Bool.eq_false_iff.mpr idle, rfl, rfl, Bool.eq_false_iff.mpr idle⟩
  waits timer ends := by
    simp only [plainTimers] at ends
    split at ends
    · next running => exact running
    · cases ends

/-- The first callback moves the expiry on 1.7 seconds late, and so three half seconds are
skipped; the exit waits for the second callback. -/
def lateRun : List Action :=
  [.tick firstDelay, .expire, .tick 1700000000, .forward, .callbackReturns, .expire,
    .tick 300000000, .expire, .exitStarts, .cancelReturns, .forward, .callbackReturns,
    .cancelReturns]

/-- Of the four expiries after the first two started callbacks, in half seconds of their own. -/
theorem callbacks_on_schedule_late :
    startTimes plainTimers (trace (step plainTimers) (start plainTimers 0) lateRun) =
        [1000000000, 3000000000] ∧
      ((startTimes plainTimers (trace (step plainTimers) (start plainTimers 0) lateRun)).Pairwise
        fun earlier later => halfSecond 0 earlier < halfSecond 0 later) :=
  ⟨rfl, (callbacks_on_schedule plainTimers plain_documented 0 lateRun lateRun
    List.prefix_rfl).2.1⟩

end LddExamples.HighResolutionTimer
