import LddExamples.TemperatureLog

/-!
# The codes of the threshold check

The check is meant to tell its caller whether the temperature is above the high threshold,
below the low one, or between them. As its tests nest, only a temperature above the high
threshold is reported at all, and one that is also below the low threshold is reported with
every code in turn, of which the last one stays.
-/

namespace LddExamples.ThresholdCodes

open KernelInterface TemperatureLog

/-- The code that stands for the temperature. -/
def code (device : Device) : BitVec 32 :=
  if device.thresholdHigh.toInt < device.temp.toInt then thHigh
  else if device.temp.toInt < device.thresholdLow.toInt then thLow
  else thWithLimit

/-- The bytes of the user's int after its earlier value and what has been stored over it. -/
def userInt (earlier : BitVec 32) (stored : List (List UInt8)) : List UInt8 :=
  stored.getLast?.getD (intBytes earlier)

/-- The check succeeds and leaves the code in the user's int, whatever it held, or fails if
there is no room for it. -/
def Classified (device : Device) (room : Nat) : Prop :=
  (4 ≤ room → ∀ earlier,
      (deviceIoctl device (.thresholdCheck room)).ret = 0 ∧
        userInt earlier (deviceIoctl device (.thresholdCheck room)).stored =
          intBytes (code device)) ∧
    (room < 4 → (deviceIoctl device (.thresholdCheck room)).ret = -efault)

/-- A temperature that is not above the high threshold is not reported. -/
theorem check_not_high (device : Device) (room : Nat)
    (notHigh : ¬ device.thresholdHigh.toInt < device.temp.toInt) :
    deviceIoctl device (.thresholdCheck room) = ⟨0, []⟩ := if_neg notHigh

/-- Without room, a temperature above the high threshold is a fault. -/
theorem check_high_short (device : Device) (room : Nat)
    (high : device.thresholdHigh.toInt < device.temp.toInt) (short : room < 4) :
    (deviceIoctl device (.thresholdCheck room)).ret = -efault := by
  simp only [deviceIoctl, if_pos high, if_pos (copy_int_short thHigh room short)]

/-- With room, a temperature above the high threshold is reported with its code, and then
with the others if it is below the low threshold. -/
theorem check_high_roomy (device : Device) (room : Nat)
    (high : device.thresholdHigh.toInt < device.temp.toInt) (roomy : 4 ≤ room) :
    deviceIoctl device (.thresholdCheck room) =
      if device.temp.toInt < device.thresholdLow.toInt then
        ⟨0, [intBytes thHigh, intBytes thLow, intBytes thWithLimit]⟩
      else ⟨0, [intBytes thHigh]⟩ := by
  simp only [deviceIoctl, if_pos high, copy_int_complete _ room roomy, ne_eq, not_true_eq_false,
    if_false]

/-- Different codes have different bytes. -/
theorem code_bytes_differ :
    intBytes thWithLimit ≠ intBytes thHigh ∧ intBytes thWithLimit ≠ intBytes 0 ∧
      intBytes thLow ≠ intBytes 0 := by
  decide

/-- The check tells its caller where the temperature lies exactly if it is above the high
threshold and, where the caller has room for a code, not below the low one. -/
theorem classified_iff (device : Device) (room : Nat) :
    Classified device room ↔
      device.thresholdHigh.toInt < device.temp.toInt ∧
        (4 ≤ room → device.thresholdLow.toInt ≤ device.temp.toInt) := by
  by_cases high : device.thresholdHigh.toInt < device.temp.toInt
  · have isHigh : code device = thHigh := if_pos high
    rw [and_iff_right high]
    by_cases roomy : 4 ≤ room
    · simp only [Classified, check_high_roomy device room high roomy, isHigh, roomy, true_imp_iff,
        Nat.not_lt_of_le roomy, false_imp_iff, and_true]
      by_cases low : device.temp.toInt < device.thresholdLow.toInt
      · rw [if_pos low]
        refine iff_of_false (fun both => code_bytes_differ.1 (both 0).2) (by omega)
      · rw [if_neg low]
        exact iff_of_true (fun _ => ⟨rfl, rfl⟩) (by omega)
    · have short := Nat.lt_of_not_le roomy
      refine iff_of_true ⟨fun enough => absurd enough roomy, fun _ => ?_⟩
        (fun enough => absurd enough roomy)
      exact check_high_short device room high short
  · refine iff_of_false ?_ (fun both => high both.1)
    rintro ⟨stores, faults⟩
    rw [check_not_high device room high] at stores faults
    by_cases roomy : 4 ≤ room
    · -- Nothing is stored, so that an earlier zero stays.
      have zero : intBytes 0 = intBytes (code device) := (stores roomy 0).2
      simp only [code, if_neg high] at zero
      split at zero
      · exact code_bytes_differ.2.2 zero.symm
      · exact code_bytes_differ.2.1 zero.symm
    · exact absurd (faults (Nat.lt_of_not_le roomy)) (by decide)

/-- A temperature within the thresholds 0 and 30. -/
def mild : Device := ⟨20, 30, 0⟩

/-- It is not reported, and an invalid address is not either. -/
theorem mild_not_reported :
    deviceIoctl mild (.thresholdCheck 4) = ⟨0, []⟩ ∧
      deviceIoctl mild (.thresholdCheck 0) = ⟨0, []⟩ ∧ ¬ Classified mild 4 := by
  refine ⟨by decide, by decide, fun classified => ?_⟩
  exact absurd (classified.1 le_rfl 0).2 (by decide)

end LddExamples.ThresholdCodes
