import LddExamples.TemperatureSensor
import LddExamples.Runs
import Mathlib.Data.List.Infix

/-!
# A temperature written while thresholds move

A `temp_write` runs step by step, one atomic access at a time, and ioctls of other
processes come in between. The write is judged by the high threshold that its first read
meets and the low threshold that its second meets, which may belong to two windows.

The verdict is wrong in one case. The temperature is below the window when the high
threshold is read and above it when the low one is read, and in between it was never
inside. A window that is in order at every moment cannot pass it so.
-/

namespace LddExamples.ThresholdMoves

open KernelInterface Runs TemperatureSensor

/-- What the write does next. -/
inductive Stage where
  | storing
  | readingHigh
  | readingLow
  | counting
  | finished
deriving DecidableEq

/-- The sensor, and the progress of the write. -/
structure Call where
  sensor : Sensor
  stage : Stage

/-- The next step of the write, or a whole ioctl of another process. -/
inductive Action where
  | advance
  /-- An ioctl of another process. -/
  | ioctl (command : Command) (arg : UserSource) (room : Nat)

/-- The next access of a write of this temperature, once it has been copied. -/
def tempWriteStep (newTemp : Int) (call : Call) : Call :=
  match call.stage with
  | .storing => ⟨{ call.sensor with currentTemp := newTemp }, .readingHigh⟩
  | .readingHigh =>
      if newTemp > call.sensor.highThreshold then { call with stage := .counting }
      else { call with stage := .readingLow }
  | .readingLow =>
      if newTemp < call.sensor.lowThreshold then { call with stage := .counting }
      else { call with stage := .finished }
  | .counting =>
      ⟨{ call.sensor with alertCount := atomicInc call.sensor.alertCount }, .finished⟩
  | .finished => call

/-- An ioctl is one step, since it sets or reads one atomic; the write is divided into its
accesses. -/
def step (newTemp : Int) (call : Call) : Action → Call × Unit
  | .advance => (tempWriteStep newTemp call, ())
  | .ioctl command arg room =>
      ({ call with sensor := (tempIoctl call.sensor command arg room).1 }, ())

/-- The write as it starts. -/
def start (sensor : Sensor) : Call := ⟨sensor, .storing⟩

/-- With nothing in between its accesses, the write is the whole handler. -/
theorem undivided_write (sensor : Sensor) (buf : UserSource) (newTemp : Int)
    (copied : copyIntFromUser buf = some newTemp) :
    after (step newTemp) (start sensor) (List.replicate 4 .advance) =
      ⟨(tempWrite sensor buf).1, .finished⟩ := by
  simp only [List.replicate, after_cons, after_nil, step, start, tempWriteStep]
  by_cases above : newTemp > sensor.highThreshold
  · rw [write_outside sensor buf newTemp copied (Or.inl above)]
    simp only [if_pos above]
  · by_cases below : newTemp < sensor.lowThreshold
    · rw [write_outside sensor buf newTemp copied (Or.inr below)]
      simp only [if_neg above, if_pos below]
    · rw [write_inside sensor buf newTemp copied (not_or.mpr ⟨above, below⟩)]
      simp only [if_neg above, if_neg below]

/-- The sensor as each of the two reads met it. -/
structure Reads where
  high : Option Sensor
  low : Option Sensor

/-- What the two reads of the write have met, after one more step. -/
def noteRead (reads : Reads) (event : Event Call Action) : Reads :=
  match event.call, event.before.stage with
  | .advance, .readingHigh => { reads with high := some event.before.sensor }
  | .advance, .readingLow => { reads with low := some event.before.sensor }
  | _, _ => reads

/-- What they have met in a history. -/
def reads (history : List (Event Call Action)) : Reads := history.foldl noteRead ⟨none, none⟩

/-- One more step. -/
theorem reads_append (history : List (Event Call Action)) (event : Event Call Action) :
    reads (history ++ [event]) = noteRead (reads history) event :=
  List.foldl_append

/-- One of the reads met this sensor. -/
def Reads.Saw (reads : Reads) (sensor : Sensor) : Prop :=
  reads.high = some sensor ∨ reads.low = some sensor

/-- What a read met is the sensor at some moment of the write. -/
theorem saw_mem (history : List (Event Call Action)) (sensor : Sensor)
    (saw : (reads history).Saw sensor) :
    ∃ event ∈ history, event.before.stage ≠ .finished ∧ event.before.sensor = sensor := by
  induction history using List.reverseRecOn with
  | nil =>
    rcases saw with high | low
    · contradiction
    · contradiction
  | append_singleton earlier event inductionHypothesis =>
    have older (before : (reads earlier).Saw sensor) :
        ∃ other ∈ earlier ++ [event],
          other.before.stage ≠ .finished ∧ other.before.sensor = sensor := by
      obtain ⟨other, member, met⟩ := inductionHypothesis before
      exact ⟨other, List.mem_append_left _ member, met⟩
    rw [reads_append] at saw
    obtain ⟨⟨current, stage⟩, action⟩ := event
    cases action with
    | ioctl command arg room => exact older saw
    | advance =>
      cases stage with
      | storing | counting | finished => exact older saw
      | readingHigh =>
        rcases saw with high | low
        · exact ⟨_, List.mem_append_right _ List.mem_cons_self, by simp, Option.some.inj high⟩
        · exact older (Or.inr low)
      | readingLow =>
        rcases saw with high | low
        · exact older (Or.inl high)
        · exact ⟨_, List.mem_append_right _ List.mem_cons_self, by simp, Option.some.inj low⟩

/-- A read met a threshold that the temperature is beyond. -/
def Alerted (newTemp : Int) (reads : Reads) : Prop :=
  (∃ sensor, reads.high = some sensor ∧ newTemp > sensor.highThreshold) ∨
    ∃ sensor, reads.low = some sensor ∧ newTemp < sensor.lowThreshold

/-- How far the write has come, what it has read, and what the counter holds. -/
inductive Progress (newTemp count : Int) : Reads → Stage → Int → Prop
  | storing : Progress newTemp count ⟨none, none⟩ .storing count
  | readingHigh : Progress newTemp count ⟨none, none⟩ .readingHigh count
  | readingLow (high : Sensor) (within : newTemp ≤ high.highThreshold) :
      Progress newTemp count ⟨some high, none⟩ .readingLow count
  | counting (reads : Reads) (alerted : Alerted newTemp reads) :
      Progress newTemp count reads .counting count
  | counted (reads : Reads) (alerted : Alerted newTemp reads) :
      Progress newTemp count reads .finished (atomicInc count)
  | quiet (high low : Sensor) (withinHigh : newTemp ≤ high.highThreshold)
      (withinLow : low.lowThreshold ≤ newTemp) :
      Progress newTemp count ⟨some high, some low⟩ .finished count

/-- Every step continues the write. -/
theorem progress_kept (newTemp count : Int) (reads : Reads) (event : Event Call Action)
    (progress : Progress newTemp count reads event.before.stage event.before.sensor.alertCount) :
    Progress newTemp count (noteRead reads event) (event.left (step newTemp)).stage
      (event.left (step newTemp)).sensor.alertCount := by
  obtain ⟨⟨sensor, stage⟩, action⟩ := event
  cases action with
  | ioctl command arg room =>
    simp only [Event.left, step, ioctl_alert_count]
    exact progress
  | advance =>
    simp only [Event.left, step]
    obtain ⟨currentTemp, highThreshold, lowThreshold, alertCount⟩ := sensor
    simp only at progress
    cases progress with
    | storing => exact .readingHigh
    | readingHigh =>
      by_cases above : newTemp > highThreshold
      · simp only [tempWriteStep, if_pos above]
        exact .counting _ (Or.inl ⟨_, rfl, above⟩)
      · simp only [tempWriteStep, if_neg above]
        exact .readingLow _ (not_lt.mp above)
    | readingLow high within =>
      by_cases below : newTemp < lowThreshold
      · simp only [tempWriteStep, if_pos below]
        exact .counting _ (Or.inr ⟨_, rfl, below⟩)
      · simp only [tempWriteStep, if_neg below]
        exact .quiet high _ within (not_lt.mp below)
    | counting _ alerted => exact .counted _ alerted
    | counted _ alerted => exact .counted _ alerted
    | quiet high low withinHigh withinLow => exact .quiet high low withinHigh withinLow

/-- At every point of a run. -/
theorem progress_along (newTemp : Int) (sensor : Sensor) (calls : List Action) :
    AtEachState (step newTemp) (start sensor) calls fun history call =>
      Progress newTemp sensor.alertCount (reads history) call.stage call.sensor.alertCount := by
  refine history_along (step newTemp) _ (fun _ _ => True) ?_ _ _ .storing (fun _ _ _ => trivial)
  intro history event progress _
  rw [reads_append]
  exact progress_kept newTemp sensor.alertCount (reads history) event progress

/-- At every moment from the start of the write to its end. -/
def Throughout (newTemp : Int) (sensor : Sensor) (calls : List Action) (Holds : Sensor → Prop) :
    Prop :=
  AtEachState (step newTemp) (start sensor) calls fun _ call =>
    call.stage ≠ .finished → Holds call.sensor

/-- What holds throughout holds of what the reads met. -/
theorem holds_of_saw (newTemp : Int) (sensor : Sensor) (calls : List Action)
    (Holds : Sensor → Prop) (throughout : Throughout newTemp sensor calls Holds) (met : Sensor)
    (saw : (reads (trace (step newTemp) (start sensor) calls)).Saw met) : Holds met := by
  obtain ⟨event, member, running, rfl⟩ := saw_mem _ met saw
  obtain ⟨earlier, isPrefix, before⟩ := (mem_trace_iff _ _ _ event).mp member
  rw [before] at running ⊢
  exact throughout earlier ((List.prefix_append _ _).trans isPrefix) running

/-- The temperature is too low, and not too high. -/
def Below (temperature : Int) (sensor : Sensor) : Prop :=
  temperature < sensor.lowThreshold ∧ temperature ≤ sensor.highThreshold

/-- The temperature is too high, and not too low. -/
def Above (temperature : Int) (sensor : Sensor) : Prop :=
  temperature > sensor.highThreshold ∧ sensor.lowThreshold ≤ temperature

/-- The temperature is below the window at the first read and above it at the second. -/
def Crosses (newTemp : Int) (reads : Reads) : Prop :=
  ∃ high low, reads.high = some high ∧ reads.low = some low ∧ Below newTemp high ∧
    Above newTemp low

/-- The write counts one alert if the temperature was outside the window at every
moment, and none if it was inside at every moment. -/
def Exact (newTemp : Int) (sensor : Sensor) (calls : List Action) : Prop :=
  (Throughout newTemp sensor calls (Outside newTemp) →
      (after (step newTemp) (start sensor) calls).sensor.alertCount =
        atomicInc sensor.alertCount) ∧
    (Throughout newTemp sensor calls (fun met => ¬ Outside newTemp met) →
      (after (step newTemp) (start sensor) calls).sensor.alertCount = sensor.alertCount)

/-- A read that alerts meets a window that the temperature is outside of. -/
theorem saw_of_alerted (newTemp : Int) (reads : Reads) (alerted : Alerted newTemp reads) :
    ∃ met, reads.Saw met ∧ Outside newTemp met := by
  rcases alerted with ⟨met, high, above⟩ | ⟨met, low, below⟩
  · exact ⟨met, Or.inl high, Or.inl above⟩
  · exact ⟨met, Or.inr low, Or.inr below⟩

/-- Reads that the window crosses do not alert. -/
theorem not_alerted_of_crosses (newTemp : Int) (reads : Reads) (crosses : Crosses newTemp reads) :
    ¬ Alerted newTemp reads := by
  obtain ⟨first, second, high, low, below, above⟩ := crosses
  rintro (⟨met, same, beyond⟩ | ⟨met, same, beyond⟩)
  · cases high.symm.trans same
    exact absurd beyond (not_lt.mpr below.2)
  · cases low.symm.trans same
    exact absurd beyond (not_lt.mpr above.2)

/-- An alert is missed or invented exactly when the temperature is outside the window
throughout and the window crosses it between the two reads. -/
theorem exact_iff_not_crossed (newTemp : Int) (sensor : Sensor) (calls : List Action)
    (ended : (after (step newTemp) (start sensor) calls).stage = .finished) :
    Exact newTemp sensor calls ↔
      ¬ (Throughout newTemp sensor calls (Outside newTemp) ∧
        Crosses newTemp (reads (trace (step newTemp) (start sensor) calls))) := by
  have progress := progress_along newTemp sensor calls calls List.prefix_rfl
  have met := holds_of_saw newTemp sensor calls
  simp only [ended] at progress
  simp only [Exact]
  generalize reads (trace (step newTemp) (start sensor) calls) = seen at progress met ⊢
  generalize (after (step newTemp) (start sensor) calls).sensor.alertCount = count at progress ⊢
  cases progress with
  | counted _ alerted =>
    refine iff_of_true ⟨fun _ => rfl, ?_⟩ ?_
    · intro inside
      obtain ⟨read, saw, outside⟩ := saw_of_alerted newTemp seen alerted
      exact absurd outside (met _ inside read saw)
    · exact fun crossed => not_alerted_of_crosses newTemp seen crossed.2 alerted
  | quiet high low withinHigh withinLow =>
    constructor
    · rintro ⟨missed, -⟩ ⟨outside, -⟩
      exact atomic_inc_ne _ (missed outside).symm
    · intro uncrossed
      refine ⟨fun outside => absurd ⟨outside, high, low, rfl, rfl, ?_, ?_⟩ uncrossed, fun _ => rfl⟩
      · rcases met _ outside high (Or.inl rfl) with above | below
        · exact absurd above (not_lt.mpr withinHigh)
        · exact ⟨below, withinHigh⟩
      · rcases met _ outside low (Or.inr rfl) with above | below
        · exact ⟨above, withinLow⟩
        · exact absurd below (not_lt.mpr withinLow)

/-- The temperature is outside a window that is in order. -/
def OutsideOrdered (temperature : Int) (sensor : Sensor) : Prop :=
  Outside temperature sensor ∧ sensor.lowThreshold ≤ sensor.highThreshold

/-- While the window is in order, a temperature that has not alerted the first read is
below the window until the second, and the second read is alerted.

Proof: by induction on the run, extended at its end. An ioctl moves one threshold only, so
that a temperature below the window can get above it only through a window out of order. -/
theorem below_until_low_read (newTemp : Int) (sensor : Sensor) (calls : List Action)
    (ordered : Throughout newTemp sensor calls (OutsideOrdered newTemp)) :
    ((after (step newTemp) (start sensor) calls).stage = .readingLow →
        Below newTemp (after (step newTemp) (start sensor) calls).sensor) ∧
      ∀ low, (reads (trace (step newTemp) (start sensor) calls)).low = some low →
        newTemp < low.lowThreshold := by
  induction calls using List.reverseRecOn with
  | nil =>
    constructor
    · intro impossible
      cases impossible
    · intro low impossible
      cases impossible
  | append_singleton earlier action inductionHypothesis =>
    obtain ⟨before, last⟩ := (at_each_state_append_singleton _ _ _ _ _).mp ordered
    obtain ⟨below, alerted⟩ := inductionHypothesis before
    have current := before earlier List.prefix_rfl
    rw [trace_append_singleton, reads_append]
    rw [after_append_singleton] at last ⊢
    generalize after (step newTemp) (start sensor) earlier = call at below current last ⊢
    obtain ⟨met, stage⟩ := call
    cases action with
    | ioctl command arg room =>
      refine ⟨fun atLow => ?_, alerted⟩
      have wasAtLow : stage = .readingLow := atLow
      have running : stage ≠ .finished := by simp [wasAtLow]
      obtain ⟨low, high⟩ := below wasAtLow
      obtain ⟨outside, inOrder⟩ := last running
      have moved := ioctl_thresholds met command arg room
      simp only [step] at outside inOrder ⊢
      simp only [Below, Outside] at *
      omega
    | advance =>
      cases stage with
      | storing | counting | finished =>
        refine ⟨fun impossible => ?_, alerted⟩
        cases impossible
      | readingHigh =>
        refine ⟨fun atLow => ?_, alerted⟩
        obtain ⟨outside, -⟩ := current (by simp)
        by_cases above : newTemp > met.highThreshold
        · simp only [step, tempWriteStep, if_pos above] at atLow
          contradiction
        · simp only [step, tempWriteStep, if_neg above]
          exact ⟨outside.resolve_left above, not_lt.mp above⟩
      | readingLow =>
        obtain ⟨low, -⟩ := below rfl
        refine ⟨fun impossible => ?_, ?_⟩
        · simp only [step, tempWriteStep, if_pos low] at impossible
          contradiction
        · rintro other same
          rw [← Option.some.inj same]
          exact low

/-- A window that is in order at every moment is not crossed. -/
theorem ordered_not_crossed (newTemp : Int) (sensor : Sensor) (calls : List Action)
    (ordered : Throughout newTemp sensor calls (OutsideOrdered newTemp)) :
    ¬ Crosses newTemp (reads (trace (step newTemp) (start sensor) calls)) := by
  rintro ⟨high, low, -, second, -, above⟩
  have alerted := (below_until_low_read newTemp sensor calls ordered).2 low second
  exact absurd alerted (not_lt.mpr above.2)

/-- For every sensor, temperature and run in which the write ends, the alert is neither
missed nor invented, except when the temperature is outside the window throughout, but
below it when the high threshold is read and above it when the low one is. A window that
is in order at every moment leaves no exception. -/
theorem alert_exact_iff (newTemp : Int) (sensor : Sensor) (calls : List Action)
    (ended : (after (step newTemp) (start sensor) calls).stage = .finished) :
    (Exact newTemp sensor calls ↔
        ¬ (Throughout newTemp sensor calls (Outside newTemp) ∧
          Crosses newTemp (reads (trace (step newTemp) (start sensor) calls)))) ∧
      (Throughout newTemp sensor calls
          (fun window => window.lowThreshold ≤ window.highThreshold) →
        Exact newTemp sensor calls) := by
  have exactly := exact_iff_not_crossed newTemp sensor calls ended
  refine ⟨exactly, fun inOrder => exactly.mpr ?_⟩
  rintro ⟨outside, crossed⟩
  exact ordered_not_crossed newTemp sensor calls
    (fun earlier isPrefix running =>
      ⟨outside earlier isPrefix running, inOrder earlier isPrefix running⟩) crossed

/-- A write of 35 to the sensor as loaded counts its alert. -/
theorem hot_write_exact : Exact 35 tempInit (List.replicate 3 .advance) := by
  apply (alert_exact_iff 35 tempInit (List.replicate 3 .advance) (by decide)).1.mpr
  rintro ⟨-, high, low, -, none, -⟩
  have unread : (reads (trace (step 35) (start tempInit) (List.replicate 3 .advance))).low =
      .none := rfl
  rw [unread] at none
  contradiction

/-- Between its two reads, a write of 5 is overtaken by both thresholds. -/
def overtakenWrite : List Action :=
  [.advance, .advance, .ioctl .tempSetHigh (.ofBytes (intBytes 3)) 0,
    .ioctl .tempSetLow (.ofBytes (intBytes 1)) 0, .advance]

/-- At every moment 5 is outside the window, and no alert is counted. -/
theorem alert_missed :
    (after (step 5) (start tempInit) overtakenWrite).stage = .finished ∧
      (after (step 5) (start tempInit) overtakenWrite).sensor.alertCount = 0 ∧
      Throughout 5 tempInit overtakenWrite (Outside 5) ∧ ¬ Exact 5 tempInit overtakenWrite := by
  have quiet : (after (step 5) (start tempInit) overtakenWrite).sensor.alertCount = 0 := by decide
  have checked : ∀ earlier ∈ overtakenWrite.inits,
      (after (step 5) (start tempInit) earlier).stage ≠ .finished →
        Outside 5 (after (step 5) (start tempInit) earlier).sensor := by decide
  have outside : Throughout 5 tempInit overtakenWrite (Outside 5) :=
    fun earlier isPrefix => checked earlier ((List.mem_inits _ _).mpr isPrefix)
  refine ⟨by decide, quiet, outside, fun exact => ?_⟩
  have counted := exact.1 outside
  rw [quiet] at counted
  exact absurd counted (by decide)

end LddExamples.ThresholdMoves
