import LddExamples.Numerals
import LddExamples.StringBuffers

/-!
# The attributes of the platform sensor

`016_platform_sensor_data/sensor_pltdrv.c`, and the same handlers in 017 and 018: one
attribute shows the temperature register, the other takes a number for the control register
and for the copy of it that the driver keeps. A text that is no number is dropped, and the
write is answered as if it had been taken. A register holds what was last written to it.
The probe, the log and the threshold of 018, which no handler here reads, are left out.

The bytes that are stored lie on a page, with a terminator behind them.
-/

namespace LddExamples.SensorControl

open KernelInterface StringBuffers Numerals

/-- `ERANGE` -/
@[simp] def erange : Int := 34

/-- The sign of a positive number. -/
def plus : UInt8 := 0x2b

/-- The character that may end a number. -/
def newline : UInt8 := 0x0a

/-- The text without one byte in front of it, if that is there. -/
def skipByte (byte : UInt8) (text : List UInt8) : List UInt8 :=
  if text.headD 0 = byte then text.tail else text

/-- `kstrtoull` with base 0: an optional plus, a numeral, an optional newline, and nothing
more. -/
def kstrtoull (text : List UInt8) : Except Int Nat :=
  let reading := readNumeral (skipByte plus text)
  if 2 ^ 64 ≤ reading.number then .error (-erange)
  else if reading.digits = 0 then .error (-einval)
  else if skipByte newline reading.rest ≠ [] then .error (-einval)
  else .ok reading.number

/-- `kstrtouint` with base 0. -/
def kstrtouint (text : List UInt8) : Except Int Nat :=
  match kstrtoull text with
  | .error error => .error error
  | .ok number => if 2 ^ 32 ≤ number then .error (-erange) else .ok number

/-- What the handlers use of the device: the copy of the control register, and the registers
by their offsets. -/
structure SensorDev where
  controlValue : BitVec 32
  registers : Nat → BitVec 32

/-- The text of the temperature register. -/
def tempShow (pdata : SensorDev) : Reply :=
  let text := decimalBytes (pdata.registers 0).toNat ++ [newline]
  ⟨text.length, text⟩

/-- The string in the buffer is read as a number. -/
def controlStore (pdata : SensorDev) (buf : List UInt8) : SensorDev × Int :=
  match kstrtouint (beforeZero buf) with
  | .ok val =>
      (⟨BitVec.ofNat 32 val, Function.update pdata.registers 4 (BitVec.ofNat 32 val)⟩, buf.length)
  | .error _ => (pdata, buf.length)

/-- The texts that are taken for a number of 32 bits, and their numbers. -/
def Denotes (text : List UInt8) (number : Nat) : Prop :=
  ∃ sign numeral ending, text = sign ++ numeral ++ ending ∧ (sign = [] ∨ sign = [plus]) ∧
    (ending = [] ∨ ending = [newline]) ∧ Numeral numeral number ∧ number < 2 ^ 32

/-- A numeral starts with a digit. -/
theorem numeral_first (numeral : List UInt8) (number : Nat) (denotes : Numeral numeral number) :
    ∃ first rest, numeral = first :: rest ∧ isDigit 10 first = true := by
  cases denotes with
  | decimal first digits nonzero all => exact ⟨first, digits, rfl, all first List.mem_cons_self⟩
  | octal digits all => exact ⟨0x30, digits, rfl, rfl⟩
  | hexadecimal x first digits mark all => exact ⟨0x30, x :: first :: digits, rfl, rfl⟩

/-- A plus in front of a numeral is skipped, and nothing else. -/
theorem skip_plus (sign numeral rest : List UInt8) (number : Nat)
    (optional : sign = [] ∨ sign = [plus]) (denotes : Numeral numeral number) :
    skipByte plus (sign ++ numeral ++ rest) = numeral ++ rest := by
  rcases optional with rfl | rfl
  · obtain ⟨first, digits, rfl, digit⟩ := numeral_first numeral number denotes
    apply if_neg
    rintro rfl
    exact absurd digit (by decide)
  · rfl

/-- Nothing is left behind a byte that is skipped if there was nothing else. -/
theorem skip_byte_empty_iff (byte : UInt8) (text : List UInt8) :
    skipByte byte text = [] ↔ text = [] ∨ text = [byte] := by
  cases text with
  | nil =>
    simp only [skipByte, List.tail_nil, ite_self, true_or]
  | cons first rest =>
    by_cases same : first = byte
    · subst same
      simp [skipByte]
    · simp [skipByte, same]

/-- What is skipped is the byte, if anything. -/
theorem skip_byte_split (byte : UInt8) (text : List UInt8) :
    ∃ front, text = front ++ skipByte byte text ∧ (front = [] ∨ front = [byte]) := by
  cases text with
  | nil => exact ⟨[], by rw [skipByte, List.tail_nil, ite_self, List.append_nil], Or.inl rfl⟩
  | cons first rest =>
    by_cases same : first = byte
    · exact ⟨[byte], by rw [skipByte, List.headD_cons, if_pos same, same]; rfl, Or.inr rfl⟩
    · exact ⟨[], by rw [skipByte, List.headD_cons, if_neg same]; rfl, Or.inl rfl⟩

/-- A number is returned exactly if it is read with a digit, and nothing but a newline
follows. -/
theorem kstrtouint_reading (text : List UInt8) (number : Nat) :
    kstrtouint text = .ok number ↔
      (readNumeral (skipByte plus text)).number = number ∧ number < 2 ^ 32 ∧
        0 < (readNumeral (skipByte plus text)).digits ∧
        skipByte newline (readNumeral (skipByte plus text)).rest = [] := by
  simp only [kstrtouint, kstrtoull]
  generalize readNumeral (skipByte plus text) = reading
  by_cases huge : 2 ^ 64 ≤ reading.number
  · simp only [if_pos huge]
    exact iff_of_false (by simp) (by omega)
  · by_cases none : reading.digits = 0
    · simp only [if_neg huge, if_pos none]
      exact iff_of_false (by simp) (by omega)
    · by_cases more : skipByte newline reading.rest ≠ []
      · simp only [if_neg huge, if_neg none, if_pos more]
        exact iff_of_false (by simp) (fun all => more all.2.2.2)
      · simp only [if_neg huge, if_neg none, if_neg more]
        by_cases large : 2 ^ 32 ≤ reading.number
        · simp only [if_pos large]
          exact iff_of_false (by simp) (by omega)
        · simp only [if_neg large, Except.ok.injEq]
          exact ⟨fun same => ⟨same, by omega, by omega, not_not.mp more⟩, fun all => all.1⟩

/-- The texts that are read are those that denote a number, and it is their number. -/
theorem kstrtouint_ok_iff (text : List UInt8) (number : Nat) :
    kstrtouint text = .ok number ↔ Denotes text number := by
  rw [kstrtouint_reading]
  constructor
  · rintro ⟨rfl, small, some, ends⟩
    obtain ⟨numeral, denotes, split⟩ := numeral_of_read (skipByte plus text) some
    obtain ⟨sign, whole, optional⟩ := skip_byte_split plus text
    refine ⟨sign, numeral, _, ?_, optional, (skip_byte_empty_iff newline _).mp ends, denotes, small⟩
    rw [List.append_assoc, ← split, ← whole]
  · rintro ⟨sign, numeral, ending, rfl, optional, line, denotes, small⟩
    have stops : Stops ending := by
      rcases line with rfl | rfl
      · decide
      · decide
    rw [skip_plus sign numeral ending number optional denotes]
    obtain ⟨same, some, rest⟩ := read_numeral numeral ending number denotes stops
    rw [rest]
    exact ⟨same, small, some, (skip_byte_empty_iff newline ending).mpr line⟩

example : kstrtouint (textBytes "+0x1F\n") = .ok 31 := rfl

/-- A leading zero makes the numeral an octal one. -/
example : kstrtouint (textBytes "08") = .error (-einval) := rfl

/-- A write succeeds exactly when it takes effect: a text that denotes a number puts it into
the register and its copy, and the write returns its length; any other text gives an error
and changes nothing. -/
def TakesEffect (pdata : SensorDev) (buf : List UInt8) : Prop :=
  (∀ number, Denotes (beforeZero buf) number →
    (controlStore pdata buf).2 = buf.length ∧
      (controlStore pdata buf).1.controlValue.toNat = number ∧
      ((controlStore pdata buf).1.registers 4).toNat = number) ∧
  ((¬ ∃ number, Denotes (beforeZero buf) number) →
    (controlStore pdata buf).2 < 0 ∧ (controlStore pdata buf).1 = pdata)

/-- A text that is read as a number sets the register and its copy. -/
theorem control_store_ok (pdata : SensorDev) (buf : List UInt8) (number : Nat)
    (read : kstrtouint (beforeZero buf) = .ok number) :
    controlStore pdata buf =
      (⟨BitVec.ofNat 32 number, Function.update pdata.registers 4 (BitVec.ofNat 32 number)⟩,
        (buf.length : Int)) := by
  simp only [controlStore, read]

/-- Any other text changes nothing, and the write returns its length. -/
theorem control_store_error (pdata : SensorDev) (buf : List UInt8) (error : Int)
    (refused : kstrtouint (beforeZero buf) = .error error) :
    controlStore pdata buf = (pdata, (buf.length : Int)) := by
  simp only [controlStore, refused]

/-- In every state, a write succeeds exactly when it takes effect if and only if its text
denotes a number. -/
theorem takes_effect_iff (pdata : SensorDev) (buf : List UInt8) :
    TakesEffect pdata buf ↔ ∃ number, Denotes (beforeZero buf) number := by
  cases read : kstrtouint (beforeZero buf) with
  | error error =>
    have none : ¬ ∃ number, Denotes (beforeZero buf) number := by
      rintro ⟨number, denotes⟩
      have ok := (kstrtouint_ok_iff _ _).mpr denotes
      rw [read] at ok
      exact absurd ok (by simp)
    refine iff_of_false (fun effect => ?_) none
    have negative := (effect.2 none).1
    rw [control_store_error pdata buf error read] at negative
    simp only at negative
    omega
  | ok number =>
    have denotes := (kstrtouint_ok_iff _ _).mp read
    refine iff_of_true ⟨fun other same => ?_, fun none => absurd ⟨number, denotes⟩ none⟩
      ⟨number, denotes⟩
    have ok := (kstrtouint_ok_iff _ _).mpr same
    rw [read] at ok
    obtain rfl := Except.ok.inj ok
    obtain ⟨_, _, _, _, _, _, _, small⟩ := denotes
    have held : (BitVec.ofNat 32 number).toNat = number := by
      rw [BitVec.toNat_ofNat, Nat.mod_eq_of_lt small]
    rw [control_store_ok pdata buf number read]
    refine ⟨rfl, held, ?_⟩
    simp only [Function.update_self, held]

/-- A device whose registers are all zero. -/
def idle : SensorDev := ⟨0, fun _ => 0⟩

/-- A text that is no number is dropped, and the write returns its length. -/
theorem garbage_accepted :
    kstrtouint (textBytes "on\n") = .error (-einval) ∧
      controlStore idle (textBytes "on\n") = (idle, 3) ∧ ¬ TakesEffect idle (textBytes "on\n") := by
  have text : beforeZero (textBytes "on\n") = textBytes "on\n" := by decide
  have refused : kstrtouint (textBytes "on\n") = .error (-einval) := rfl
  have stored : controlStore idle (textBytes "on\n") = (idle, 3) :=
    control_store_error idle _ (-einval) (by rw [text, refused])
  refine ⟨refused, stored, fun effect => ?_⟩
  have none : ¬ ∃ number, Denotes (beforeZero (textBytes "on\n")) number := by
    rintro ⟨number, denotes⟩
    have ok := (kstrtouint_ok_iff _ _).mpr denotes
    rw [text, refused] at ok
    exact absurd ok (by simp)
  have negative := (effect.2 none).1
  rw [stored] at negative
  exact absurd negative (by decide)

end LddExamples.SensorControl
