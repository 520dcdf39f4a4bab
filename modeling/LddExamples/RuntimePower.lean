import LddExamples.KernelInterface
import LddExamples.Runs

/-!
# The runtime power references

`020_power_management/power_mgmt_kernel.c`: a write to the state attribute takes a
reference to the device if it starts with a '1', and drops one if it starts with a '0'.
The power core counts the references; it resumes the device with the first and suspends
it with the last, through the driver's callbacks. The core is not part of the driver, and
its count is taken as an integer.

The count is the number of references taken less the number dropped. The driver counts
neither, and takes none for the device that it has found active.
-/

namespace LddExamples.RuntimePower

open Runs

/-- The driver's variable, and the count of the power core. -/
structure Device where
  deviceState : Int
  usageCount : Int
deriving DecidableEq

/-- The device as `power_probe` leaves it. -/
def probed : Device := ⟨1, 0⟩

/-- The callback of a system suspend clears the driver's variable. -/
def powerSuspend (device : Device) : Device := { device with deviceState := 0 }

/-- The callback of a system resume sets it. -/
def powerResume (device : Device) : Device := { device with deviceState := 1 }

/-- The callback for runtime suspends returns zero and does nothing. -/
def powerRuntimeSuspend (device : Device) : Device := device

/-- The callback for runtime resumes likewise. -/
def powerRuntimeResume (device : Device) : Device := device

/-- The core takes a reference, and resumes the device with the first one. -/
def pmRuntimeGetSync (device : Device) : Device :=
  let device := { device with usageCount := device.usageCount + 1 }
  if device.usageCount = 1 then powerRuntimeResume device else device

/-- The core drops a reference, and suspends the device with the last one. Whether there is
one to drop it does not check here: the count goes below zero. -/
def pmRuntimePutSync (device : Device) : Device :=
  let device := { device with usageCount := device.usageCount - 1 }
  if device.usageCount = 0 then powerRuntimeSuspend device else device

/-- The first byte decides; the core ends the buffer with a zero byte, so that an empty
write has one too. -/
def stateStore (device : Device) (buf : List UInt8) : Device × Int :=
  let first := buf.headD 0
  let device :=
    if first = 48 then pmRuntimePutSync device
    else if first = 49 then pmRuntimeGetSync device
    else device
  (device, buf.length)

/-- A write of some bytes to the attribute, and the suspends and resumes of the system. -/
inductive Action where
  | store (buf : List UInt8)
  | suspend
  | resume

/-- One action, with what a write returns. -/
def step (device : Device) : Action → Device × Int
  | .store buf => stateStore device buf
  | .suspend => (powerSuspend device, 0)
  | .resume => (powerResume device, 0)

/-- The action is a write that starts with this character. -/
def Writes (character : UInt8) : Action → Prop
  | .store buf => buf.headD 0 = character
  | .suspend | .resume => False

instance (character : UInt8) (action : Action) : Decidable (Writes character action) :=
  match action with
  | .store buf => inferInstanceAs (Decidable (buf.headD 0 = character))
  | .suspend | .resume => inferInstanceAs (Decidable False)

/-- No action both drops and takes a reference. -/
theorem not_get_of_put (action : Action) (put : Writes 48 action) : ¬ Writes 49 action := by
  intro get
  cases action with
  | suspend | resume => exact get
  | store buf => exact absurd (put.symm.trans get) (by decide)

/-- The number of earlier writes that start with this character. -/
def written (character : UInt8) (history : List (Event Device Action)) : Nat :=
  history.countP fun event => decide (Writes character event.call)

/-- One more action. -/
theorem written_append (character : UInt8) (history : List (Event Device Action))
    (event : Event Device Action) :
    written character (history ++ [event]) =
      written character history + if Writes character event.call then 1 else 0 := by
  simp only [written, List.countP_append, List.countP_singleton, decide_eq_true_eq]

/-- A put drops one reference. -/
theorem put_usage_count (device : Device) :
    (pmRuntimePutSync device).usageCount = device.usageCount - 1 := by
  simp only [pmRuntimePutSync, powerRuntimeSuspend, ite_self]

/-- A get takes one reference. -/
theorem get_usage_count (device : Device) :
    (pmRuntimeGetSync device).usageCount = device.usageCount + 1 := by
  simp only [pmRuntimeGetSync, powerRuntimeResume, ite_self]

/-- What an action does to the count. -/
theorem step_usage_count (device : Device) (action : Action) :
    (step device action).1.usageCount =
      device.usageCount + (if Writes 49 action then 1 else 0) -
        (if Writes 48 action then 1 else 0) := by
  cases action with
  | suspend | resume => simp [step, powerSuspend, powerResume, Writes]
  | store buf =>
    simp only [step, stateStore]
    by_cases put : Writes 48 (.store buf)
    · rw [if_pos put, if_neg (not_get_of_put _ put), add_zero]
      exact (congrArg Device.usageCount (if_pos put)).trans (put_usage_count device)
    · rw [if_neg put, sub_zero]
      apply (congrArg Device.usageCount (if_neg put)).trans
      by_cases get : Writes 49 (.store buf)
      · rw [if_pos get]
        exact (congrArg Device.usageCount (if_pos get)).trans (get_usage_count device)
      · rw [if_neg get, add_zero]
        exact congrArg Device.usageCount (if_neg get)

/-- The count is the number of gets less the number of puts. -/
def Counted (history : List (Event Device Action)) (device : Device) : Prop :=
  device.usageCount = written 49 history - written 48 history

/-- Every action keeps the count. -/
theorem counted_kept (history : List (Event Device Action)) (event : Event Device Action)
    (counted : Counted history event.before) :
    Counted (history ++ [event]) (event.left step) := by
  have total : (event.left step).usageCount = _ := step_usage_count event.before event.call
  simp only [Counted] at counted ⊢
  rw [total, counted, written_append, written_append]
  push_cast
  omega

/-- A write that drops a reference comes when more have been taken than dropped. -/
def Matched (history : List (Event Device Action)) (event : Event Device Action) : Prop :=
  Writes 48 event.call → written 48 history < written 49 history

/-- In every run from the probed device, the count is never negative exactly when each
write that starts with a '0' comes after more writes that start with a '1' than with a
'0'. -/
theorem usage_nonneg_iff (calls : List Action) :
    AtEachState step probed calls (fun _ device => 0 ≤ device.usageCount) ↔
      AtEachCall step probed calls Matched := by
  refine history_throughout_iff step Counted (fun _ device => 0 ≤ device.usageCount)
    (fun _ _ => True) Matched (fun history event counted _ => counted_kept history event counted)
    ?_ probed calls rfl le_rfl (fun _ _ _ => trivial)
  intro history event counted _ nonneg
  have total : (event.left step).usageCount = _ := step_usage_count event.before event.call
  simp only [Counted] at counted
  rw [total]
  by_cases put : Writes 48 event.call
  · rw [if_pos put, if_neg (not_get_of_put _ put)]
    simp only [Matched, put, true_imp_iff]
    omega
  · rw [if_neg put]
    refine iff_of_true ?_ (fun impossible => absurd impossible put)
    split <;> omega

/-- The bundled program's first write, a '0'. -/
def firstWrite : List Action := [.store [48]]

/-- It drops a reference that nobody has taken. -/
theorem put_unmatched :
    (after step probed firstWrite).usageCount = -1 ∧
      ¬ AtEachState step probed firstWrite (fun _ device => 0 ≤ device.usageCount) := by
  have negative : (after step probed firstWrite).usageCount = -1 := by decide
  refine ⟨negative, fun nonneg => ?_⟩
  have last : 0 ≤ (after step probed firstWrite).usageCount := nonneg firstWrite List.prefix_rfl
  rw [negative] at last
  exact absurd last (by decide)

end LddExamples.RuntimePower
