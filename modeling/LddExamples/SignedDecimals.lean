import LddExamples.SensorControl

/-!
# Signed decimals

What the kernel prints of an int, and the two ways in which it reads one. `kstrtoint` takes
exactly an optional sign, digits, and an optional newline that denote a number of the type;
`sscanf` takes a number from the start of a text, if there is one, cuts it to the type, and
looks at nothing behind it. Both read back what is printed.
-/

namespace LddExamples.SignedDecimals

open KernelInterface Numerals SensorControl

/-- The sign of a negative number. -/
def minus : UInt8 := 0x2d

/-- What `%d` prints. -/
def printInt (number : Int) : List UInt8 :=
  if number < 0 then minus :: decimalBytes number.natAbs else decimalBytes number.natAbs

/-- The digits at the start of a text. -/
def readDecimal (text : List UInt8) : Reading :=
  let digits := text.takeWhile (isDigit 10)
  ⟨value 10 digits, digits.length, text.dropWhile (isDigit 10)⟩

/-- `_kstrtoull` with base 10: digits, an optional newline, and nothing more. -/
def readUnsigned (text : List UInt8) : Except Int Nat :=
  let reading := readDecimal text
  if 2 ^ 64 ≤ reading.number then .error (-erange)
  else if reading.digits = 0 then .error (-einval)
  else if skipByte newline reading.rest ≠ [] then .error (-einval)
  else .ok reading.number

/-- `kstrtoll` with base 10. -/
def kstrtoll (text : List UInt8) : Except Int Int :=
  if text.headD 0 = minus then
    match readUnsigned text.tail with
    | .error error => .error error
    | .ok number => if 2 ^ 63 < number then .error (-erange) else .ok (-number)
  else
    match readUnsigned (skipByte plus text) with
    | .error error => .error error
    | .ok number => if 2 ^ 63 ≤ number then .error (-erange) else .ok number

/-- `kstrtoint` with base 10. -/
def kstrtoint (text : List UInt8) : Except Int (BitVec 32) :=
  match kstrtoll text with
  | .error error => .error error
  | .ok number =>
      if -2 ^ 31 ≤ number ∧ number < 2 ^ 31 then .ok (BitVec.ofInt 32 number)
      else .error (-erange)

/-- The kernel's white space, the space that does not break included. -/
def isSpace (byte : UInt8) : Bool :=
  (9 ≤ byte.toNat ∧ byte.toNat ≤ 13) ∨ byte.toNat = 32 ∨ byte.toNat = 160

/-- `%d` of `sscanf`: white space is skipped, a minus may precede the digits, and of a number
that does not fit the lower bits are taken. -/
def scanInt (text : List UInt8) : Option (BitVec 32) :=
  let text := text.dropWhile isSpace
  let negative := text.headD 0 = minus
  let digits := if negative then text.tail else text
  if isDigit 10 (digits.headD 0) then
    let magnitude := value 10 (digits.takeWhile (isDigit 10))
    some (BitVec.ofInt 32 (if negative then -magnitude else magnitude))
  else none

/-- Digits are taken up to what is none. -/
theorem read_digits (digits rest : List UInt8) (all : ∀ byte ∈ digits, isDigit 10 byte = true)
    (stops : isDigit 10 (rest.headD 0) = false) :
    (digits ++ rest).takeWhile (isDigit 10) = digits ∧
      (digits ++ rest).dropWhile (isDigit 10) = rest := by
  rw [List.takeWhile_append_of_pos all, List.dropWhile_append_of_pos all]
  cases rest with
  | nil => exact ⟨List.append_nil _, rfl⟩
  | cons byte rest =>
    have none : ¬ isDigit 10 byte = true := by
      rw [Bool.not_eq_true]
      exact stops
    exact ⟨by rw [List.takeWhile_cons_of_neg none, List.append_nil],
      List.dropWhile_cons_of_neg none⟩

/-- Digits for the number, and what may follow them. -/
def Magnitude (text : List UInt8) (number : Nat) : Prop :=
  ∃ digits ending, text = digits ++ ending ∧ digits ≠ [] ∧
    (∀ byte ∈ digits, isDigit 10 byte = true) ∧ (ending = [] ∨ ending = [newline]) ∧
    value 10 digits = number

/-- The texts for which a number is stored. -/
def Denotes (text : List UInt8) (number : Int) : Prop :=
  ∃ (sign numeral : List UInt8) (magnitude : Nat), text = sign ++ numeral ∧
    Magnitude numeral magnitude ∧
    ((sign = [minus] ∧ number = -magnitude) ∨
      ((sign = [] ∨ sign = [plus]) ∧ number = magnitude))

/-- Exactly digits with an optional newline are taken, if their number fits. -/
theorem read_unsigned_ok_iff (text : List UInt8) (number : Nat) :
    readUnsigned text = .ok number ↔ Magnitude text number ∧ number < 2 ^ 64 := by
  constructor
  · intro taken
    simp only [readUnsigned] at taken
    split at taken
    · cases taken
    · next small =>
      split at taken
      · cases taken
      · next some =>
        split at taken
        · cases taken
        · next ends =>
          cases taken
          refine ⟨⟨text.takeWhile (isDigit 10), text.dropWhile (isDigit 10), ?_, ?_, ?_, ?_, rfl⟩,
            Nat.lt_of_not_le small⟩
          · exact List.takeWhile_append_dropWhile.symm
          · intro none
            simp only [readDecimal, none] at some
            exact some rfl
          · exact fun _ member => List.mem_takeWhile_imp member
          · exact (skip_byte_empty_iff newline _).mp (not_not.mp ends)
  · rintro ⟨⟨digits, ending, rfl, some, all, line, rfl⟩, small⟩
    have stops : isDigit 10 (ending.headD 0) = false := by
      rcases line with rfl | rfl <;> decide
    obtain ⟨taken, left⟩ := read_digits digits ending all stops
    have counted : ¬ digits.length = 0 := fun none => some (List.eq_nil_of_length_eq_zero none)
    simp only [readUnsigned, readDecimal, taken, left, if_neg (Nat.not_le_of_lt small),
      if_neg counted, (skip_byte_empty_iff newline ending).mpr line, ne_eq, not_true_eq_false,
      if_false]

/-- A magnitude starts with a digit. -/
theorem magnitude_first (text : List UInt8) (number : Nat) (magnitude : Magnitude text number) :
    isDigit 10 (text.headD 0) = true := by
  obtain ⟨digits, ending, rfl, some, all, _⟩ := magnitude
  cases digits with
  | nil => exact absurd rfl some
  | cons first digits => exact all first List.mem_cons_self

/-- No sign is a digit. -/
theorem not_sign (byte : UInt8) (digit : isDigit 10 byte = true) : byte ≠ minus ∧ byte ≠ plus := by
  constructor
  · rintro rfl
    exact absurd digit (by decide)
  · rintro rfl
    exact absurd digit (by decide)

/-- The texts that `kstrtoll` takes. -/
theorem kstrtoll_ok_iff (text : List UInt8) (number : Int) :
    kstrtoll text = .ok number ↔ Denotes text number ∧ -2 ^ 63 ≤ number ∧ number < 2 ^ 63 := by
  constructor
  · intro taken
    rw [kstrtoll] at taken
    split at taken
    · next negative =>
      obtain ⟨rest, rfl⟩ : ∃ rest, text = minus :: rest := by
        cases text with
        | nil => exact absurd negative (by decide)
        | cons first rest => exact ⟨rest, congrArg (· :: rest) negative⟩
      split at taken
      · cases taken
      · next magnitude read =>
        obtain ⟨denotes, _⟩ := (read_unsigned_ok_iff _ _).mp read
        split at taken
        · cases taken
        · cases taken
          exact ⟨⟨[minus], rest, magnitude, rfl, denotes, Or.inl ⟨rfl, rfl⟩⟩, by omega, by omega⟩
    · split at taken
      · cases taken
      · next magnitude read =>
        obtain ⟨denotes, _⟩ := (read_unsigned_ok_iff _ _).mp read
        obtain ⟨sign, whole, optional⟩ := skip_byte_split plus text
        split at taken
        · cases taken
        · cases taken
          exact ⟨⟨sign, _, magnitude, whole, denotes, Or.inr ⟨optional, rfl⟩⟩, by omega, by omega⟩
  · rintro ⟨⟨sign, numeral, magnitude, rfl, denotes, signed⟩, low, high⟩
    have digit := magnitude_first numeral magnitude denotes
    rcases signed with ⟨rfl, rfl⟩ | ⟨optional, rfl⟩
    · have read := (read_unsigned_ok_iff numeral magnitude).mpr ⟨denotes, by omega⟩
      have small : ¬ 2 ^ 63 < magnitude := by omega
      have first : ([minus] ++ numeral).headD 0 = minus := rfl
      rw [kstrtoll, if_pos first, show ([minus] ++ numeral).tail = numeral from rfl, read]
      exact if_neg small
    · have read := (read_unsigned_ok_iff numeral magnitude).mpr ⟨denotes, by omega⟩
      have small : ¬ 2 ^ 63 ≤ magnitude := by omega
      have first : ¬ (sign ++ numeral).headD 0 = minus := by
        rcases optional with rfl | rfl
        · exact (not_sign _ digit).1
        · exact show plus ≠ minus by decide
      have skipped : skipByte plus (sign ++ numeral) = numeral := by
        rcases optional with rfl | rfl
        · exact if_neg (not_sign _ digit).2
        · rfl
      rw [kstrtoll, if_neg first, skipped, read]
      exact if_neg small

/-- `kstrtoint` takes exactly the texts that denote an int. -/
theorem kstrtoint_ok_iff (text : List UInt8) (number : BitVec 32) :
    kstrtoint text = .ok number ↔ Denotes text number.toInt := by
  have low := BitVec.le_toInt number
  have high := BitVec.toInt_lt (x := number)
  constructor
  · intro taken
    rw [kstrtoint] at taken
    split at taken
    · cases taken
    · next whole read =>
      obtain ⟨denotes, _⟩ := (kstrtoll_ok_iff _ _).mp read
      split at taken
      · next fits =>
        cases taken
        rwa [BitVec.toInt_ofInt_eq_self (by decide) fits.1 fits.2]
      · cases taken
  · intro denotes
    have read := (kstrtoll_ok_iff text number.toInt).mpr ⟨denotes, by omega, by omega⟩
    have fits : -2 ^ 31 ≤ number.toInt ∧ number.toInt < 2 ^ 31 := ⟨low, high⟩
    simp only [kstrtoint, read, if_pos fits, BitVec.ofInt_toInt]

/-- The two errors of the digits: out of range, or not a number. -/
theorem read_unsigned_error (text : List UInt8) (error : Int)
    (refused : readUnsigned text = .error error) : error = -erange ∨ error = -einval := by
  simp only [readUnsigned] at refused
  split at refused
  · exact Or.inl (Except.error.inj refused).symm
  · split at refused
    · exact Or.inr (Except.error.inj refused).symm
    · split at refused
      · exact Or.inr (Except.error.inj refused).symm
      · cases refused

/-- The same two, with a sign in front. -/
theorem kstrtoll_error (text : List UInt8) (error : Int)
    (refused : kstrtoll text = .error error) : error = -erange ∨ error = -einval := by
  rw [kstrtoll] at refused
  split at refused
  all_goals
    split at refused
    · next unread =>
      cases refused
      exact read_unsigned_error _ _ unread
    · split at refused
      · exact Or.inl (Except.error.inj refused).symm
      · cases refused

/-- A text that is not taken is out of range or no number. -/
theorem kstrtoint_error (text : List UInt8) (error : Int)
    (refused : kstrtoint text = .error error) : error = -erange ∨ error = -einval := by
  rw [kstrtoint] at refused
  split at refused
  · next unread =>
    cases refused
    exact kstrtoll_error _ _ unread
  · split at refused
    · cases refused
    · exact Or.inl (Except.error.inj refused).symm

/-- Decimal digits are a magnitude, with or without a newline behind them. -/
theorem decimal_magnitude (number : Nat) (ending : List UInt8)
    (line : ending = [] ∨ ending = [newline]) :
    Magnitude (decimalBytes number ++ ending) number := by
  obtain ⟨first, rest, start, _⟩ := numeral_first _ number (decimal_numeral number)
  exact ⟨decimalBytes number, ending, rfl, by simp [start], decimal_digits number, line,
    value_decimal number⟩

/-- What is printed of a number denotes it, with or without a newline behind it. -/
theorem print_denotes (number : Int) (ending : List UInt8)
    (line : ending = [] ∨ ending = [newline]) : Denotes (printInt number ++ ending) number := by
  have magnitude := decimal_magnitude number.natAbs ending line
  by_cases negative : number < 0
  · refine ⟨[minus], _, _, ?_, magnitude, Or.inl ⟨rfl, by omega⟩⟩
    rw [printInt, if_pos negative]
    rfl
  · refine ⟨[], _, _, ?_, magnitude, Or.inr ⟨Or.inl rfl, by omega⟩⟩
    rw [printInt, if_neg negative]
    rfl

/-- What is printed of an int is read back. -/
theorem kstrtoint_print (number : BitVec 32) (ending : List UInt8)
    (line : ending = [] ∨ ending = [newline]) :
    kstrtoint (printInt number.toInt ++ ending) = .ok number :=
  (kstrtoint_ok_iff _ number).mpr (print_denotes number.toInt ending line)

/-- What is printed starts with neither a zero byte nor white space, and has no zero byte. -/
theorem print_visible (number : Int) :
    (0 : UInt8) ∉ printInt number ∧ isSpace ((printInt number).headD 0) = false := by
  have digits (byte : UInt8) (digit : isDigit 10 byte = true) :
      byte ≠ 0 ∧ isSpace byte = false := by
    obtain ⟨lower, upper⟩ := decimal_digit_range byte digit
    refine ⟨?_, ?_⟩
    · rintro rfl
      exact absurd digit (by decide)
    · rw [isSpace, decide_eq_false_iff_not]
      omega
  have all := decimal_digits number.natAbs
  obtain ⟨first, rest, start, _⟩ := numeral_first _ _ (decimal_numeral number.natAbs)
  have nonzero : (0 : UInt8) ∉ decimalBytes number.natAbs :=
    fun member => (digits 0 (all 0 member)).1 rfl
  by_cases negative : number < 0
  · rw [printInt, if_pos negative]
    refine ⟨?_, show isSpace minus = false by decide⟩
    rw [List.mem_cons]
    rintro (impossible | member)
    · exact absurd impossible (by decide)
    · exact nonzero member
  · rw [printInt, if_neg negative]
    refine ⟨nonzero, ?_⟩
    rw [start] at all ⊢
    exact (digits first (all first List.mem_cons_self)).2

end LddExamples.SignedDecimals
