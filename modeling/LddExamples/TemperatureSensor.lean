import LddExamples.KernelInterface

/-!
# The temperature sensor

`004_temp_sens_atomic/temp_kernel.c`: the last temperature, two thresholds and a count of
alerts, each an atomic int. A write stores its temperature and counts an alert when that
is above the high threshold or below the low one; the two thresholds are read one after
the other, the low one only if the high one raises no alert. Each ioctl accesses one of
the ints. Registration and the messages are left out.
-/

namespace LddExamples.TemperatureSensor

open KernelInterface

/-- The four atomics of the driver. -/
structure Sensor where
  currentTemp : Int
  highThreshold : Int
  lowThreshold : Int
  alertCount : Int
deriving DecidableEq

/-- The sensor as `temp_init` leaves it. -/
def tempInit : Sensor := ⟨25, 30, 20, 0⟩

/-- An atomic int counts modulo 2^32. -/
def atomicInc (value : Int) : Int := wrapSigned 32 (value + 1)

/-- The commands, and every other number. -/
inductive Command where
  | tempSetHigh
  | tempSetLow
  | tempGetCurrent
  | tempGetAlerts
  | other
deriving DecidableEq

/-- Copy an int to the user's argument. -/
def replyInt (value : Int) (room : Nat) : Reply :=
  let (data, missing) := copyToUser (intBytes (BitVec.ofInt 32 value)) room
  if missing ≠ 0 then ⟨-efault, data⟩ else ⟨0, data⟩

/-- The argument is read by the commands that set a threshold; the others copy to it, as
far as there is room. -/
def tempIoctl (sensor : Sensor) (command : Command) (arg : UserSource) (room : Nat) :
    Sensor × Reply :=
  match command with
  | .tempSetHigh =>
      match copyIntFromUser arg with
      | none => (sensor, ⟨-efault, []⟩)
      | some val => ({ sensor with highThreshold := val }, ⟨0, []⟩)
  | .tempSetLow =>
      match copyIntFromUser arg with
      | none => (sensor, ⟨-efault, []⟩)
      | some val => ({ sensor with lowThreshold := val }, ⟨0, []⟩)
  | .tempGetCurrent => (sensor, replyInt sensor.currentTemp room)
  | .tempGetAlerts => (sensor, replyInt sensor.alertCount room)
  | .other => (sensor, ⟨-einval, []⟩)

/-- The temperature is above the high threshold or below the low one. -/
def Outside (temperature : Int) (sensor : Sensor) : Prop :=
  temperature > sensor.highThreshold ∨ temperature < sensor.lowThreshold

instance (temperature : Int) (sensor : Sensor) : Decidable (Outside temperature sensor) :=
  inferInstanceAs
    (Decidable (temperature > sensor.highThreshold ∨ temperature < sensor.lowThreshold))

/-- A whole `temp_write`, with nothing in between its accesses. -/
def tempWrite (sensor : Sensor) (buf : UserSource) : Sensor × Int :=
  match copyIntFromUser buf with
  | none => (sensor, -efault)
  | some newTemp =>
      let sensor := { sensor with currentTemp := newTemp }
      if Outside newTemp sensor then
        ({ sensor with alertCount := atomicInc sensor.alertCount }, 4)
      else (sensor, 4)

/-- A temperature that cannot be copied changes nothing. -/
theorem write_uncopied (sensor : Sensor) (buf : UserSource) (failed : copyIntFromUser buf = none) :
    tempWrite sensor buf = (sensor, -efault) := by
  simp only [tempWrite, failed]

/-- A temperature outside the window is stored and counted. -/
theorem write_outside (sensor : Sensor) (buf : UserSource) (newTemp : Int)
    (copied : copyIntFromUser buf = some newTemp) (outside : Outside newTemp sensor) :
    tempWrite sensor buf =
      ({ sensor with currentTemp := newTemp, alertCount := atomicInc sensor.alertCount }, 4) := by
  simp only [tempWrite, copied]
  exact if_pos outside

/-- A temperature inside the window is stored. -/
theorem write_inside (sensor : Sensor) (buf : UserSource) (newTemp : Int)
    (copied : copyIntFromUser buf = some newTemp) (inside : ¬ Outside newTemp sensor) :
    tempWrite sensor buf = ({ sensor with currentTemp := newTemp }, 4) := by
  simp only [tempWrite, copied]
  exact if_neg inside

/-- No ioctl counts an alert. -/
theorem ioctl_alert_count (sensor : Sensor) (command : Command) (arg : UserSource) (room : Nat) :
    (tempIoctl sensor command arg room).1.alertCount = sensor.alertCount := by
  cases command with
  | tempSetHigh => cases copied : copyIntFromUser arg <;> simp only [tempIoctl, copied]
  | tempSetLow => cases copied : copyIntFromUser arg <;> simp only [tempIoctl, copied]
  | tempGetCurrent | tempGetAlerts | other => rfl

/-- An ioctl leaves one of the thresholds as it is. -/
theorem ioctl_thresholds (sensor : Sensor) (command : Command) (arg : UserSource) (room : Nat) :
    (tempIoctl sensor command arg room).1.highThreshold = sensor.highThreshold ∨
      (tempIoctl sensor command arg room).1.lowThreshold = sensor.lowThreshold := by
  cases command with
  | tempSetHigh =>
    right
    cases copied : copyIntFromUser arg <;> simp only [tempIoctl, copied]
  | tempSetLow =>
    left
    cases copied : copyIntFromUser arg <;> simp only [tempIoctl, copied]
  | tempGetCurrent | tempGetAlerts | other => exact Or.inl rfl

/-- Counting once changes the counter. -/
theorem atomic_inc_ne (value : Int) : atomicInc value ≠ value := by
  simp only [atomicInc, wrapSigned, Int.bmod_def]
  omega

end LddExamples.TemperatureSensor
