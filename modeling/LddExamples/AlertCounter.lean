import LddExamples.TemperatureSensor
import LddExamples.Runs

/-!
# What the alert counter says

Writes and ioctls run one at a time from the sensor as it is loaded. The counter is the
number of writes that were outside the window in force, as a C int: the number itself
below 2^31, and negative at 2^31.
-/

namespace LddExamples.AlertCounter

open KernelInterface Runs TemperatureSensor

/-- The calls that can change the sensor. -/
inductive Call where
  | write (buf : UserSource)
  | ioctl (command : Command) (arg : UserSource) (room : Nat)

/-- One call. -/
def step (sensor : Sensor) : Call → Sensor × Reply
  | .write buf =>
      let (sensor, ret) := tempWrite sensor buf
      (sensor, ⟨ret, []⟩)
  | .ioctl command arg room => tempIoctl sensor command arg room

/-- The temperature that a call writes, if it can be copied. -/
def writtenTemp : Call → Option Int
  | .write buf => copyIntFromUser buf
  | .ioctl _ _ _ => none

/-- A write whose temperature is outside the window in force. -/
def Alerting (event : Event Sensor Call) : Prop :=
  ∃ newTemp ∈ writtenTemp event.call, Outside newTemp event.before

instance (event : Event Sensor Call) : Decidable (Alerting event) :=
  inferInstanceAs (Decidable (∃ newTemp ∈ writtenTemp event.call, Outside newTemp event.before))

/-- The number of alerting writes. -/
def alertingWrites (history : List (Event Sensor Call)) : Nat :=
  history.countP fun event => decide (Alerting event)

/-- One more call. -/
theorem alerting_writes_append (history : List (Event Sensor Call)) (event : Event Sensor Call) :
    alertingWrites (history ++ [event]) =
      alertingWrites history + if Alerting event then 1 else 0 := by
  simp only [alertingWrites, List.countP_append, List.countP_singleton, decide_eq_true_eq]

/-- The value that `TEMP_GET_ALERTS` copies to the user. -/
def shownAlerts (sensor : Sensor) : Int :=
  decodeInt (tempIoctl sensor .tempGetAlerts (.ofBytes []) 4).2.data

/-- Only an alerting write changes the counter. -/
theorem step_alert_count (event : Event Sensor Call) :
    (event.left step).alertCount =
      if Alerting event then atomicInc event.before.alertCount else event.before.alertCount := by
  obtain ⟨sensor, call⟩ := event
  cases call with
  | ioctl command arg room =>
    have quiet : ¬ Alerting ⟨sensor, .ioctl command arg room⟩ := by simp [Alerting, writtenTemp]
    rw [if_neg quiet]
    exact ioctl_alert_count sensor command arg room
  | write buf =>
    simp only [Event.left, step]
    cases copied : copyIntFromUser buf with
    | none =>
      have quiet : ¬ Alerting ⟨sensor, .write buf⟩ := by simp [Alerting, writtenTemp, copied]
      rw [write_uncopied sensor buf copied, if_neg quiet]
    | some newTemp =>
      by_cases outside : Outside newTemp sensor
      · have alerting : Alerting ⟨sensor, .write buf⟩ := ⟨newTemp, copied, outside⟩
        rw [write_outside sensor buf newTemp copied outside, if_pos alerting]
      · have quiet : ¬ Alerting ⟨sensor, .write buf⟩ := by
          simpa [Alerting, writtenTemp, copied] using outside
        rw [write_inside sensor buf newTemp copied outside, if_neg quiet]

/-- Counting on from a wrapped number wraps the next number. -/
theorem atomic_inc_wrapped (number : Nat) :
    atomicInc (wrapSigned 32 number) = wrapSigned 32 (number + 1 : Nat) := by
  simp only [atomicInc, wrapSigned, Int.bmod_def, Nat.cast_add, Nat.cast_one]
  omega

/-- The counter is the wrapped number of alerting writes. -/
theorem alert_count_after (calls : List Call) :
    (after step tempInit calls).alertCount =
      wrapSigned 32 (alertingWrites (trace step tempInit calls)) := by
  induction calls using List.reverseRecOn with
  | nil => rfl
  | append_singleton earlier call inductionHypothesis =>
    have last := step_alert_count ⟨after step tempInit earlier, call⟩
    rw [after_append_singleton, trace_append_singleton, alerting_writes_append]
    apply last.trans
    rw [inductionHypothesis]
    split
    · exact atomic_inc_wrapped _
    · rfl

/-- The user is shown the counter. -/
theorem shown_alerts_eq (calls : List Call) :
    shownAlerts (after step tempInit calls) =
      wrapSigned 32 (alertingWrites (trace step tempInit calls)) := by
  have copied (value : Int) : (replyInt value 4).data = intBytes (BitVec.ofInt 32 value) := by
    have bytes (word : BitVec 32) : (intBytes word).take 4 = intBytes word :=
      List.take_of_length_le (by simp [intBytes])
    simp only [replyInt, copyToUser, bytes]
    split <;> rfl
  simp only [shownAlerts, tempIoctl, copied, decodeInt_intBytes, BitVec.toInt_ofInt]
  rw [alert_count_after]
  simp only [wrapSigned, Int.bmod_def]
  omega

/-- The number of alerting writes never decreases along a run. -/
theorem alerting_writes_mono (earlier calls : List Call) (isPrefix : earlier <+: calls) :
    alertingWrites (trace step tempInit earlier) ≤ alertingWrites (trace step tempInit calls) := by
  obtain ⟨rest, rfl⟩ := isPrefix
  rw [trace_append, alertingWrites, alertingWrites, List.countP_append]
  exact Nat.le_add_right _ _

/-- A number below 2^31 is shown as it is. -/
theorem wrap_exact (number : Nat) (small : number < 2 ^ 31) : wrapSigned 32 number = number := by
  simp only [wrapSigned, Int.bmod_def]
  omega

/-- After every run from the loaded sensor, the value shown is the number of alerting
writes as a C int; while the number is below 2^31 it is that number, and no value shown
before was greater. -/
theorem alerts_counted (calls : List Call) :
    shownAlerts (after step tempInit calls) =
        wrapSigned 32 (alertingWrites (trace step tempInit calls)) ∧
      (alertingWrites (trace step tempInit calls) < 2 ^ 31 →
        shownAlerts (after step tempInit calls) = alertingWrites (trace step tempInit calls) ∧
          ∀ earlier, earlier <+: calls →
            shownAlerts (after step tempInit earlier) ≤
              shownAlerts (after step tempInit calls)) := by
  refine ⟨shown_alerts_eq calls, fun small => ?_⟩
  have shown : shownAlerts (after step tempInit calls) =
      alertingWrites (trace step tempInit calls) :=
    (shown_alerts_eq calls).trans (wrap_exact _ small)
  refine ⟨shown, fun earlier isPrefix => ?_⟩
  have fewer := alerting_writes_mono earlier calls isPrefix
  rw [shown, shown_alerts_eq, wrap_exact _ (fewer.trans_lt small)]
  exact Int.ofNat_le.mpr fewer

/-- Of writes of 35 and 25 to the sensor as loaded, one is counted. -/
theorem one_alert_counted :
    shownAlerts (after step tempInit
      [.write (.ofBytes (intBytes 35)), .write (.ofBytes (intBytes 25))]) = 1 :=
  ((alerts_counted _).2 (by decide)).1.trans (by decide)

/-- A write of 35, which is above the threshold of the sensor as loaded. -/
def hotWrite : Call := .write (.ofBytes (intBytes 35))

/-- Hot writes are all alerting, and leave the thresholds. -/
theorem hot_writes_counted (number : Nat) :
    alertingWrites (trace step tempInit (List.replicate number hotWrite)) = number ∧
      (after step tempInit (List.replicate number hotWrite)).highThreshold = 30 := by
  induction number with
  | zero => exact ⟨rfl, rfl⟩
  | succ number inductionHypothesis =>
    obtain ⟨counted, threshold⟩ := inductionHypothesis
    have copied : copyIntFromUser (.ofBytes (intBytes 35)) = some 35 := by decide
    have outside : Outside 35 (after step tempInit (List.replicate number hotWrite)) := by
      left
      rw [threshold]
      decide
    have alerting : Alerting ⟨after step tempInit (List.replicate number hotWrite), hotWrite⟩ :=
      ⟨35, copied, outside⟩
    rw [List.replicate_succ', trace_append_singleton, after_append_singleton]
    constructor
    · rw [alerting_writes_append, if_pos alerting, counted]
    · have written := write_outside _ _ 35 copied outside
      exact (congrArg (fun left => left.1.highThreshold) written).trans threshold

/-- After 2^31 hot writes the value shown is negative, and the last of them has made it
less. -/
theorem alerts_wrap :
    alertingWrites (trace step tempInit (List.replicate (2 ^ 31) hotWrite)) = 2 ^ 31 ∧
      shownAlerts (after step tempInit (List.replicate (2 ^ 31) hotWrite)) = -2 ^ 31 ∧
      shownAlerts (after step tempInit (List.replicate (2 ^ 31 - 1) hotWrite)) = 2 ^ 31 - 1 := by
  refine ⟨(hot_writes_counted _).1, ?_, ?_⟩
  · rw [shown_alerts_eq, (hot_writes_counted _).1]
    decide
  · rw [shown_alerts_eq, (hot_writes_counted _).1]
    decide

end LddExamples.AlertCounter
