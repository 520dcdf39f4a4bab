import LddExamples.KernelInterface
import Mathlib.Data.List.TakeWhile

/-!
# Numerals with a base that shows

A numeral is read in the base that its start shows: hexadecimal after `0x`, octal after
another zero, and decimal otherwise. Reading takes as many digits as there are, and fewer
than a prefix promises where the digits are missing: the prefix then is the octal zero.
Reading and the grammar agree in both directions, and the decimal digits of a number are a
numeral for it, also those of zero, which are an octal one.
-/

namespace LddExamples.Numerals

open KernelInterface

/-- The value of a digit, in the bases up to 16. -/
def digitValue (byte : UInt8) : Option Nat :=
  if 0x30 ≤ byte.toNat ∧ byte.toNat ≤ 0x39 then some (byte.toNat - 0x30)
  else if 0x61 ≤ byte.toNat ∧ byte.toNat ≤ 0x66 then some (byte.toNat - 0x61 + 10)
  else if 0x41 ≤ byte.toNat ∧ byte.toNat ≤ 0x46 then some (byte.toNat - 0x41 + 10)
  else none

/-- The byte is a digit of the base. -/
def isDigit (base : Nat) (byte : UInt8) : Bool := (digitValue byte).any (· < base)

/-- The number that digits denote. -/
def value (base : Nat) (digits : List UInt8) : Nat :=
  digits.foldl (fun number byte => base * number + (digitValue byte).getD 0) 0

/-- The letter that marks hexadecimal digits. -/
def isX (byte : UInt8) : Prop := byte = 0x78 ∨ byte = 0x58

instance (byte : UInt8) : Decidable (isX byte) := inferInstanceAs (Decidable (_ ∨ _))

/-- The base that a text shows, and the text from its first digit on. -/
def fixupRadix (text : List UInt8) : Nat × List UInt8 :=
  if text.headD 0 = 0x30 then
    if isX (text.getD 1 0) ∧ isDigit 16 (text.getD 2 0) then (16, text.drop 2) else (8, text)
  else (10, text)

/-- What is read at the start of a text: the number, how many digits it has, and what
follows them. -/
structure Reading where
  number : Nat
  digits : Nat
  rest : List UInt8

/-- The base that a prefix tells, the number of the digits behind it, and what follows them.
-/
def readNumeral (text : List UInt8) : Reading :=
  let (base, text) := fixupRadix text
  let digits := text.takeWhile (isDigit base)
  ⟨value base digits, digits.length, text.dropWhile (isDigit base)⟩

/-- The numerals and their numbers. -/
inductive Numeral : List UInt8 → Nat → Prop where
  | decimal (first : UInt8) (digits : List UInt8) (nonzero : first ≠ 0x30)
      (all : ∀ byte ∈ first :: digits, isDigit 10 byte) :
      Numeral (first :: digits) (value 10 (first :: digits))
  | octal (digits : List UInt8) (all : ∀ byte ∈ digits, isDigit 8 byte) :
      Numeral (0x30 :: digits) (value 8 digits)
  | hexadecimal (x first : UInt8) (digits : List UInt8) (mark : isX x)
      (all : ∀ byte ∈ first :: digits, isDigit 16 byte) :
      Numeral (0x30 :: x :: first :: digits) (value 16 (first :: digits))

/-- A digit of a base is one of every larger base. -/
theorem is_digit_mono (byte : UInt8) (base larger : Nat) (le : base ≤ larger)
    (digit : isDigit base byte = true) : isDigit larger byte = true := by
  simp only [isDigit, Option.any_eq_true, decide_eq_true_eq] at digit ⊢
  obtain ⟨number, denotes, below⟩ := digit
  exact ⟨number, denotes, by omega⟩

/-- The mark is no digit. -/
theorem not_digit_of_x (byte : UInt8) (mark : isX byte) (base : Nat) :
    isDigit base byte = false := by
  rcases mark with rfl | rfl
  · rfl
  · rfl

/-- The decimal digits are the characters from 0 to 9. -/
theorem decimal_digit_range (byte : UInt8) (digit : isDigit 10 byte = true) :
    0x30 ≤ byte.toNat ∧ byte.toNat ≤ 0x39 := by
  simp only [isDigit, Option.any_eq_true, decide_eq_true_eq] at digit
  obtain ⟨number, denotes, below⟩ := digit
  simp only [digitValue] at denotes
  split at denotes
  · assumption
  · split at denotes
    · have same := Option.some.inj denotes
      omega
    · split at denotes
      · have same := Option.some.inj denotes
        omega
      · contradiction

/-- A zero in front does not count. -/
theorem value_zero_cons (base : Nat) (digits : List UInt8) :
    value base (0x30 :: digits) = value base digits := by
  have zero : (digitValue 0x30).getD 0 = 0 := by decide
  simp only [value, List.foldl_cons, zero, Nat.mul_zero, Nat.add_zero]

/-- What follows a numeral without being taken for a part of it. -/
def Stops (rest : List UInt8) : Prop := isDigit 16 (rest.headD 0) = false ∧ ¬ isX (rest.headD 0)

instance (rest : List UInt8) : Decidable (Stops rest) := inferInstanceAs (Decidable (_ ∧ _))

/-- Digits are taken up to what stops them. -/
theorem take_digits (base : Nat) (small : base ≤ 16) (digits rest : List UInt8)
    (all : ∀ byte ∈ digits, isDigit base byte) (stops : Stops rest) :
    (digits ++ rest).takeWhile (isDigit base) = digits ∧
      (digits ++ rest).dropWhile (isDigit base) = rest := by
  rw [List.takeWhile_append_of_pos all, List.dropWhile_append_of_pos all]
  cases rest with
  | nil => exact ⟨List.append_nil _, rfl⟩
  | cons byte rest =>
    have none : ¬ isDigit base byte = true := by
      intro digit
      exact Bool.false_ne_true (stops.1.symm.trans (is_digit_mono byte base 16 small digit))
    exact ⟨by rw [List.takeWhile_cons_of_neg none, List.append_nil],
      List.dropWhile_cons_of_neg none⟩

/-- A numeral is read as its number. -/
theorem read_numeral (numeral rest : List UInt8) (number : Nat) (denotes : Numeral numeral number)
    (stops : Stops rest) :
    (readNumeral (numeral ++ rest)).number = number ∧
      0 < (readNumeral (numeral ++ rest)).digits ∧
      (readNumeral (numeral ++ rest)).rest = rest := by
  cases denotes with
  | decimal first digits nonzero all =>
    have radix : fixupRadix (first :: digits ++ rest) = (10, first :: digits ++ rest) :=
      if_neg nonzero
    obtain ⟨taken, left⟩ := take_digits 10 (by decide) (first :: digits) rest all stops
    simp only [readNumeral, radix, taken, left, List.length_cons]
    exact ⟨trivial, Nat.succ_pos _, trivial⟩
  | octal digits all =>
    have second : ¬ isX ((digits ++ rest).headD 0) := by
      cases digits with
      | nil => exact stops.2
      | cons digit digits =>
        intro mark
        have none := not_digit_of_x digit mark 8
        exact Bool.false_ne_true (none.symm.trans (all digit List.mem_cons_self))
    have second' : ¬ isX ((0x30 :: digits ++ rest).getD 1 0) := by
      rwa [List.cons_append, List.getD_cons_succ, ← List.headD_eq_getD]
    have radix : fixupRadix (0x30 :: digits ++ rest) = (8, 0x30 :: digits ++ rest) :=
      (if_pos rfl).trans (if_neg fun hexadecimal => second' hexadecimal.1)
    have allOctal : ∀ byte ∈ 0x30 :: digits, isDigit 8 byte := by
      intro byte member
      rcases List.mem_cons.mp member with rfl | member
      · rfl
      · exact all byte member
    obtain ⟨taken, left⟩ := take_digits 8 (by decide) (0x30 :: digits) rest allOctal stops
    simp only [readNumeral, radix, taken, left, List.length_cons, value_zero_cons]
    exact ⟨trivial, Nat.succ_pos _, trivial⟩
  | hexadecimal x first digits mark all =>
    have radix : fixupRadix (0x30 :: x :: first :: digits ++ rest) =
        (16, first :: digits ++ rest) :=
      (if_pos rfl).trans (if_pos ⟨mark, all first List.mem_cons_self⟩)
    obtain ⟨taken, left⟩ := take_digits 16 le_rfl (first :: digits) rest all stops
    simp only [readNumeral, radix, taken, left, List.length_cons]
    exact ⟨trivial, Nat.succ_pos _, trivial⟩

/-- What is taken are digits. -/
theorem all_taken (base : Nat) (text : List UInt8) :
    ∀ byte ∈ text.takeWhile (isDigit base), isDigit base byte = true :=
  fun _ member => List.mem_takeWhile_imp member

/-- A text that starts with a zero. -/
theorem zero_text (text : List UInt8) (zero : text.headD 0 = 0x30) :
    ∃ rest, text = 0x30 :: rest := by
  cases text with
  | nil => exact absurd zero (by decide)
  | cons first rest => exact ⟨rest, congrArg (· :: rest) zero⟩

/-- A text that starts with a prefix and a digit behind it. -/
theorem hexadecimal_text (text : List UInt8) (zero : text.headD 0 = 0x30)
    (mark : isX (text.getD 1 0)) (digit : isDigit 16 (text.getD 2 0)) :
    ∃ x first rest, text = 0x30 :: x :: first :: rest := by
  obtain ⟨afterZero, rfl⟩ := zero_text text zero
  cases afterZero with
  | nil => exact absurd mark (by decide)
  | cons x afterX =>
    cases afterX with
    | nil => exact absurd (show isDigit 16 0 = true from digit) (by decide)
    | cons first rest => exact ⟨x, first, rest, rfl⟩

/-- What is read is a numeral for its number, if it has a digit. -/
theorem numeral_of_read (text : List UInt8) (some : 0 < (readNumeral text).digits) :
    ∃ numeral, Numeral numeral (readNumeral text).number ∧
      text = numeral ++ (readNumeral text).rest := by
  by_cases zero : text.headD 0 = 0x30
  · by_cases hexadecimal : isX (text.getD 1 0) ∧ isDigit 16 (text.getD 2 0)
    · obtain ⟨x, first, digits, rfl⟩ := hexadecimal_text text zero hexadecimal.1 hexadecimal.2
      have radix : fixupRadix (0x30 :: x :: first :: digits) = (16, first :: digits) :=
        (if_pos rfl).trans (if_pos hexadecimal)
      have all := all_taken 16 (first :: digits)
      have whole := (List.takeWhile_append_dropWhile (p := isDigit 16) (l := first :: digits)).symm
      have taken : (first :: digits).takeWhile (isDigit 16) =
          first :: digits.takeWhile (isDigit 16) := List.takeWhile_cons_of_pos hexadecimal.2
      simp only [readNumeral, radix]
      rw [taken] at all whole ⊢
      exact ⟨_, .hexadecimal x first _ hexadecimal.1 all, congrArg (0x30 :: x :: ·) whole⟩
    · have radix : fixupRadix text = (8, text) := (if_pos zero).trans (if_neg hexadecimal)
      obtain ⟨digits, rfl⟩ := zero_text text zero
      have all := all_taken 8 digits
      have whole := (List.takeWhile_append_dropWhile (p := isDigit 8) (l := digits)).symm
      have taken : (0x30 :: digits).takeWhile (isDigit 8) = 0x30 :: digits.takeWhile (isDigit 8) :=
        List.takeWhile_cons_of_pos rfl
      have left : (0x30 :: digits).dropWhile (isDigit 8) = digits.dropWhile (isDigit 8) :=
        List.dropWhile_cons_of_pos rfl
      simp only [readNumeral, radix, taken, left, value_zero_cons]
      exact ⟨_, .octal _ all, congrArg (0x30 :: ·) whole⟩
  · have radix : fixupRadix text = (10, text) := if_neg zero
    have all := all_taken 10 text
    have whole := (List.takeWhile_append_dropWhile (p := isDigit 10) (l := text)).symm
    simp only [readNumeral, radix] at some ⊢
    cases taken : text.takeWhile (isDigit 10) with
    | nil => rw [taken] at some; exact absurd some (Nat.lt_irrefl _)
    | cons first digits =>
      rw [taken] at all whole
      refine ⟨first :: digits, .decimal first digits ?_ all, whole⟩
      rintro rfl
      rw [whole] at zero
      exact zero rfl

/-- The character of a decimal digit is one. -/
theorem digit_value_char (character : Char) (digit : character.isDigit = true) :
    digitValue (UInt8.ofNat character.toNat) = some (character.toNat - 0x30) ∧
      character.toNat - 0x30 < 10 := by
  obtain ⟨lower, upper⟩ : 48 ≤ character.toNat ∧ character.toNat ≤ 57 := by
    simp only [Char.isDigit, Bool.and_eq_true, decide_eq_true_eq, ge_iff_le,
      UInt32.le_iff_toNat_le] at digit
    exact digit
  have code : (UInt8.ofNat character.toNat).toNat = character.toNat := by
    rw [UInt8.toNat_ofNat']
    omega
  refine ⟨?_, by omega⟩
  rw [digitValue, code, if_pos ⟨lower, upper⟩]

/-- The decimal digits of a number are digits. -/
theorem decimal_digits (number : Nat) : ∀ byte ∈ decimalBytes number, isDigit 10 byte = true := by
  intro byte member
  obtain ⟨character, printed, rfl⟩ := List.mem_map.mp member
  obtain ⟨denotes, below⟩ := digit_value_char character
    (Nat.isDigit_of_mem_toDigits (by decide) le_rfl printed)
  rw [isDigit, denotes, Option.any_some, decide_eq_true below]

/-- Bytes of decimal digits denote what their characters do. -/
theorem value_chars (characters : List Char) (digits : ∀ character ∈ characters,
    character.isDigit = true) (number : Nat) :
    (characters.map fun digit => UInt8.ofNat digit.toNat).foldl
        (fun number byte => 10 * number + (digitValue byte).getD 0) number =
      Nat.ofDigitChars 10 characters number := by
  induction characters generalizing number with
  | nil => rw [List.map_nil, List.foldl_nil, Nat.ofDigitChars_nil]
  | cons character characters inductionHypothesis =>
    have first := (digit_value_char character (digits character List.mem_cons_self)).1
    rw [List.map_cons, List.foldl_cons, first, Option.getD_some, Nat.ofDigitChars_cons]
    exact inductionHypothesis (fun other member => digits other (List.mem_cons_of_mem _ member)) _

/-- The decimal digits of a number denote it. -/
theorem value_decimal (number : Nat) : value 10 (decimalBytes number) = number := by
  have digits : ∀ character ∈ Nat.toDigits 10 number, character.isDigit = true :=
    fun _ member => Nat.isDigit_of_mem_toDigits (by decide) le_rfl member
  rw [value, decimalBytes, value_chars _ digits, Nat.ofDigitChars_ten_toDigits]

/-- The decimal digits of a number other than zero do not start with a zero. -/
theorem decimal_first (number : Nat) (positive : 0 < number) :
    ∃ first digits, decimalBytes number = first :: digits ∧ first ≠ 0x30 := by
  have small : ∀ digit < 10, 0 < digit → UInt8.ofNat (Nat.digitChar digit).toNat ≠ 0x30 := by
    decide
  induction number using Nat.strongRecOn with
  | ind number inductionHypothesis =>
    rw [decimalBytes, Nat.toDigits_eq_if (by decide)]
    by_cases single : number < 10
    · rw [if_pos single]
      exact ⟨_, [], rfl, small number single positive⟩
    · obtain ⟨first, digits, start, nonzero⟩ := inductionHypothesis (number / 10) (by omega)
        (by omega)
      rw [decimalBytes] at start
      rw [if_neg single, List.map_append, start]
      exact ⟨first, _, rfl, nonzero⟩

/-- The decimal digits of a number are a numeral for it. -/
theorem decimal_numeral (number : Nat) : Numeral (decimalBytes number) number := by
  rcases Nat.eq_zero_or_pos number with rfl | positive
  · exact .octal [] (fun _ member => absurd member List.not_mem_nil)
  · obtain ⟨first, digits, start, nonzero⟩ := decimal_first number positive
    have all := decimal_digits number
    have denotes := value_decimal number
    rw [start] at all denotes ⊢
    have numeral := Numeral.decimal first digits nonzero all
    rwa [denotes] at numeral

end LddExamples.Numerals
