import LddExamples.RuntimePower

/-!
# The power state that is shown

The device is suspended from a suspend to the next resume. The power core suspends it
with the system, and at run time when the last reference is dropped; it resumes it with
the system, and at run time when the first reference is taken. The attribute shows a
variable of the driver, which only the callbacks of the system transitions set. What it
shows is right as long as the transitions at run time change nothing.
-/

namespace LddExamples.PowerState

open KernelInterface Runs RuntimePower

/-- The attribute prints one of two lines, by the driver's variable alone. -/
def stateShow (device : Device) : List UInt8 :=
  textBytes (if device.deviceState ≠ 0 then "Device State: Active\n"
    else "Device State: Suspended\n")

/-- The driver, and whether the device is suspended. -/
structure System where
  device : Device
  suspended : Bool

/-- Whether the device is suspended after an action. -/
def suspendedAfter (system : System) : Action → Bool
  | .suspend => true
  | .resume => false
  | .store buf =>
      if buf.headD 0 = 48 ∧ system.device.usageCount = 1 then true
      else if buf.headD 0 = 49 ∧ system.device.usageCount = 0 then false
      else system.suspended

/-- One action, on the device and on the suspension that it stands for. -/
def step (system : System) (action : Action) : System × Int :=
  (⟨(RuntimePower.step system.device action).1, suspendedAfter system action⟩,
    (RuntimePower.step system.device action).2)

/-- The probed device is not suspended. -/
def start : System := ⟨probed, false⟩

/-- The attribute says that the device is suspended exactly if it is. -/
def Shown (system : System) : Prop :=
  stateShow system.device = textBytes "Device State: Suspended\n" ↔ system.suspended = true

/-- A write takes the first reference only while the device is not suspended, and drops
the last one only while it is. -/
def NoTransition (event : Event System Action) : Prop :=
  (Writes 49 event.call → event.before.device.usageCount = 0 → event.before.suspended = false) ∧
    (Writes 48 event.call → event.before.device.usageCount = 1 → event.before.suspended = true)

/-- The two texts differ. -/
theorem state_show_suspended_iff (device : Device) :
    stateShow device = textBytes "Device State: Suspended\n" ↔ device.deviceState = 0 := by
  have different : textBytes "Device State: Active\n" ≠ textBytes "Device State: Suspended\n" := by
    decide
  by_cases suspended : device.deviceState = 0
  · simp only [stateShow, suspended, ne_eq, not_true_eq_false, if_false]
  · simp only [stateShow, suspended, ne_eq, not_false_eq_true, if_true, different]

/-- What is shown is right when the variable says so. -/
theorem shown_iff (system : System) :
    Shown system ↔ (system.device.deviceState = 0 ↔ system.suspended = true) := by
  rw [Shown, state_show_suspended_iff]

/-- A write leaves the variable as it is. -/
theorem store_device_state (device : Device) (buf : List UInt8) :
    (stateStore device buf).1.deviceState = device.deviceState := by
  have put : (pmRuntimePutSync device).deviceState = device.deviceState := by
    simp only [pmRuntimePutSync, powerRuntimeSuspend, ite_self]
  have get : (pmRuntimeGetSync device).deviceState = device.deviceState := by
    simp only [pmRuntimeGetSync, powerRuntimeResume, ite_self]
  simp only [stateStore]
  split
  · exact put
  · split
    · exact get
    · rfl

/-- A write keeps the device as it is exactly when it makes no transition that changes
it. -/
theorem suspended_kept_iff (system : System) (buf : List UInt8) :
    suspendedAfter system (.store buf) = system.suspended ↔
      NoTransition ⟨system, .store buf⟩ := by
  simp only [suspendedAfter, NoTransition, Writes]
  by_cases last : buf.headD 0 = 48 ∧ system.device.usageCount = 1
  · have other : ¬ buf.headD 0 = 49 := by
      rw [last.1]
      decide
    rw [if_pos last]
    simp only [last.1, last.2, true_imp_iff]
    constructor
    · exact fun same => ⟨fun impossible => absurd impossible (by decide), same.symm⟩
    · exact fun both => both.2.symm
  · rw [if_neg last]
    by_cases first : buf.headD 0 = 49 ∧ system.device.usageCount = 0
    · rw [if_pos first]
      simp only [first.1, first.2, true_imp_iff]
      constructor
      · exact fun same => ⟨same.symm, fun impossible => absurd impossible (by decide)⟩
      · exact fun both => both.1.symm
    · rw [if_neg first]
      refine iff_of_true rfl ⟨?_, ?_⟩
      · exact fun get zero => absurd ⟨get, zero⟩ first
      · exact fun put one => absurd ⟨put, one⟩ last

/-- An action keeps what is shown right exactly when it makes no such transition. -/
theorem shown_step_iff (event : Event System Action) (shown : Shown event.before) :
    Shown (event.left step) ↔ NoTransition event := by
  obtain ⟨system, action⟩ := event
  rw [shown_iff] at shown ⊢
  cases action with
  | suspend =>
    refine iff_of_true ?_ ⟨fun impossible => absurd impossible id, fun impossible =>
      absurd impossible id⟩
    exact iff_of_true rfl rfl
  | resume =>
    refine iff_of_true ?_ ⟨fun impossible => absurd impossible id, fun impossible =>
      absurd impossible id⟩
    exact iff_of_false (show ¬ (1 : Int) = 0 by decide) (show ¬ false = true by decide)
  | store buf =>
    rw [← suspended_kept_iff]
    have unchanged : (Event.left step ⟨system, .store buf⟩).device.deviceState =
        system.device.deviceState := store_device_state system.device buf
    have next : (Event.left step ⟨system, .store buf⟩).suspended =
        suspendedAfter system (.store buf) := rfl
    rw [unchanged, next]
    constructor
    · exact fun right => Bool.eq_iff_iff.mpr (right.symm.trans shown)
    · exact fun same => shown.trans (Bool.eq_iff_iff.mp same).symm

/-- In every run of writes and system transitions, the attribute says that the device is
suspended exactly while it is, in every state, if and only if each write that takes the
first reference finds the device not suspended and each that drops the last finds it
suspended. -/
theorem shown_throughout_iff (actions : List Action) :
    AtEachState step start actions (fun _ system => Shown system) ↔
      AtEachCall step start actions (fun _ event => NoTransition event) :=
  history_throughout_iff step (fun _ _ => True) (fun _ => Shown) (fun _ _ => True)
    (fun _ => NoTransition) (fun _ _ _ _ => trivial)
    (fun _ event _ _ shown => shown_step_iff event shown) start actions trivial
    ((shown_iff start).mpr (by decide)) (fun _ _ _ => trivial)

/-- The first reference is taken and dropped again. -/
def getAndPut : List Action := [.store [49], .store [48]]

/-- Each write is matched, the device is suspended, and the attribute says that it is
active. -/
theorem suspended_shown_active :
    AtEachCall RuntimePower.step probed getAndPut Matched ∧
      (after step start getAndPut).suspended = true ∧
      stateShow (after step start getAndPut).device = textBytes "Device State: Active\n" ∧
      ¬ AtEachState step start getAndPut (fun _ system => Shown system) := by
  refine ⟨?_, by decide, rfl, fun shown => ?_⟩
  · have calls : getAndPut = [.store [49]] ++ [.store [48]] := rfl
    rw [calls, at_each_call_append_singleton]
    refine ⟨?_, fun _ => by decide⟩
    intro earlier call isPrefix
    obtain ⟨rfl, rfl⟩ : earlier = [] ∧ call = .store [49] := by
      have short := isPrefix.length_le
      cases earlier with
      | nil => exact ⟨rfl, (List.cons.inj (isPrefix.eq_of_length rfl)).1⟩
      | cons first rest => simp at short
    exact fun put => absurd put (by decide)
  · have last := (shown_iff _).mp (shown getAndPut List.prefix_rfl)
    exact absurd last (by decide)

end LddExamples.PowerState
