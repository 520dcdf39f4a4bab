import LddExamples.KernelInterface

/-!
# The temperature logger

`001_temp_log/driver.c` and the value that `helper.c` exports to it. A read asks the
helper for the temperature, keeps it for the later comparison with the thresholds,
and copies the whole int to the user; the length that the caller asks for is never
looked at. The helper's value is a module parameter that may change at any time, so
it is part of the call. Registration and the log are left out, and a parenthesis that
the read lacks is taken to be there.

The check of the thresholds is a command. Its tests have no braces, so that each `else`
belongs to the nearest `if`: the tests for the low threshold are reached after the copy of
the high code, and the last copy after that of the low code.
-/

namespace LddExamples.TemperatureLog

open KernelInterface

/-- The variables of the driver; the thresholds are its module parameters. -/
structure Device where
  temp : BitVec 32
  thresholdHigh : BitVec 32
  thresholdLow : BitVec 32

/-- A read keeps the helper's value before it copies it, so that the value is kept also when
the copy fails. It returns 1, not the number of bytes. The position is neither read nor
moved. -/
def deviceRead (device : Device) (tempVal : BitVec 32) (room : Nat) : Device × Reply :=
  let device := { device with temp := tempVal }
  let (data, missing) := copyToUser (intBytes device.temp) room
  if missing ≠ 0 then (device, ⟨-efault, data⟩) else (device, ⟨1, data⟩)

/-- The code for a temperature above the high threshold. -/
def thHigh : BitVec 32 := 0x22

/-- The code for a temperature below the low threshold. -/
def thLow : BitVec 32 := 0x33

/-- The code for a temperature between the two. -/
def thWithLimit : BitVec 32 := 0x44

/-- A command with the room at its argument address. Every number without a command is
`unknown`. -/
inductive Ioctl where
  | thresholdCheck (room : Nat)
  | unknown

/-- What a command returns, and the bytes that its copies have stored, in order. -/
structure Answer where
  ret : Int
  stored : List (List UInt8)
deriving DecidableEq

/-- The check as the compiler reads it, not as it is indented: the copies follow one another
to the same address, and the last one counts. A temperature that is not above the high
threshold is answered with no copy at all. -/
def deviceIoctl (device : Device) : Ioctl → Answer
  | .thresholdCheck room =>
      if device.thresholdHigh.toInt < device.temp.toInt then
        let (high, missing) := copyToUser (intBytes thHigh) room
        if missing ≠ 0 then ⟨-efault, [high]⟩
        else if device.temp.toInt < device.thresholdLow.toInt then
          let (low, missing) := copyToUser (intBytes thLow) room
          if missing ≠ 0 then ⟨-efault, [high, low]⟩
          else
            let (withLimit, missing) := copyToUser (intBytes thWithLimit) room
            if missing ≠ 0 then ⟨-efault, [high, low, withLimit]⟩
            else ⟨0, [high, low, withLimit]⟩
        else ⟨0, [high]⟩
      else ⟨0, []⟩
  | .unknown => ⟨0, []⟩

end LddExamples.TemperatureLog
