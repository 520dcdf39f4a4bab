import LddExamples.SensorControl

/-!
# The sensor program and its driver

`016_platform_sensor_data/sensor_app.c`: the program reads the temperature and writes the
control register as decimal numbers, and both sides read a number in the base that it shows.
Decimal digits do not start with a zero unless they are those of zero, which is zero in
every base. A file can fail to open, and a transfer can fail before it gets to the handler.
Printing is left out.
-/

namespace LddExamples.SensorApp

open ByteWindows KernelInterface StringBuffers Numerals SensorControl

/-- The size of `buf`, in both functions. -/
def bufSize : Nat := 32

/-- The characters that a number may follow. -/
def isSpace (byte : UInt8) : Bool := byte = 0x20 ∨ (0x09 ≤ byte.toNat ∧ byte.toNat ≤ 0x0d)

/-- The sign of a negative number. -/
def minus : UInt8 := 0x2d

/-- `strtoul` with base 0, where `unsigned long` is a word. -/
def strtoul (word : Word) (text : List UInt8) : Nat :=
  let text := text.dropWhile isSpace
  let negative := text.headD 0 = minus
  let text := if negative then text.tail else skipByte plus text
  let number := (readNumeral text).number
  if 2 ^ word.bits ≤ number then 2 ^ word.bits - 1
  else if negative then (2 ^ word.bits - number) % 2 ^ word.bits
  else number

/-- `snprintf` of a text: the buffer, and the length that the text would need. -/
def snprintf (buf : Memory) (size : Nat) (text : List UInt8) : Memory × Nat :=
  (store buf 0 (text.take (size - 1) ++ [0]), text.length)

/-- A write to the control attribute. -/
def writeAttribute (pdata : SensorDev) (bytes : List UInt8) (writeError : Option Errno) :
    SensorDev × Int :=
  match writeError with
  | some error => (pdata, error.ret)
  | none => controlStore pdata bytes

/-- A read from the start of the temperature attribute. -/
def readAttribute (pdata : SensorDev) (count : Nat) (readError : Option Errno) : Reply :=
  match readError with
  | some error => ⟨error.ret, []⟩
  | none => ⟨((tempShow pdata).data.take count).length, (tempShow pdata).data.take count⟩

/-- The return value and `*temp`. -/
def readTemperature (word : Word) (pdata : SensorDev) (buf : Memory) (temp : BitVec 32)
    (openError readError : Option Errno) : Int × BitVec 32 :=
  match openError with
  | some _ => (-1, temp)
  | none =>
      let read := readAttribute pdata (bufSize - 1) readError
      if read.ret ≤ 0 then (-1, temp)
      else
        let buf := store (store buf 0 read.data) read.ret.toNat [0]
        (0, BitVec.ofNat 32 (strtoul word (stringIn bufSize buf)))

/-- The device and the return value. -/
def writeControl (pdata : SensorDev) (buf : Memory) (control : BitVec 32)
    (openError writeError : Option Errno) : SensorDev × Int :=
  match openError with
  | some _ => (pdata, -1)
  | none =>
      let (buf, len) := snprintf buf bufSize (decimalBytes control.toNat)
      let (pdata, ret) := writeAttribute pdata (load buf 0 len) writeError
      if ret ≠ len then (pdata, -1) else (pdata, 0)

/-- A number of 32 bits has at most ten decimal digits. -/
theorem decimal_short (number : BitVec 32) : (decimalBytes number.toNat).length ≤ 10 := by
  have bound := number.isLt
  exact decimal_bytes_length_le number.toNat 10 (by decide) (by omega)

/-- A number of 32 bits is made of its value. -/
theorem of_nat_to_nat (number : BitVec 32) : BitVec.ofNat 32 number.toNat = number :=
  BitVec.eq_of_toNat_eq (by rw [BitVec.toNat_ofNat, Nat.mod_eq_of_lt number.isLt])

/-- No decimal digit is a zero byte. -/
theorem decimal_nonzero (number : Nat) : (0 : UInt8) ∉ decimalBytes number := by
  intro member
  exact absurd (decimal_digits number 0 member) (by decide)

/-- A text that fits is printed into the buffer as it is. -/
theorem snprintf_text (buf : Memory) (size : Nat) (text : List UInt8) (fits : text.length < size) :
    load (snprintf buf size text).1 0 (snprintf buf size text).2 = text := by
  have whole : text.take (size - 1) = text := List.take_of_length_le (by omega)
  have stored := congrArg (List.take text.length) (load_store_same buf 0 (text ++ [0]))
  rw [take_load, List.length_append, List.length_singleton, Nat.min_eq_left (Nat.le_succ _),
    List.take_left] at stored
  rw [snprintf, whole]
  exact stored

/-- The decimal digits of a number of 32 bits are read as it. -/
theorem strtoul_decimal (word : Word) (number : BitVec 32) (rest : List UInt8)
    (stops : Stops rest) : strtoul word (decimalBytes number.toNat ++ rest) = number.toNat := by
  have numeral := decimal_numeral number.toNat
  obtain ⟨first, digits, start, digit⟩ := numeral_first _ _ numeral
  have bound : number.toNat < 2 ^ word.bits :=
    Nat.lt_of_lt_of_le number.isLt (by cases word <;> decide)
  have range := decimal_digit_range first digit
  have unspaced : (decimalBytes number.toNat ++ rest).dropWhile isSpace =
      decimalBytes number.toNat ++ rest := by
    rw [start, List.cons_append]
    apply List.dropWhile_cons_of_neg
    rw [isSpace, decide_eq_true_eq]
    rintro (rfl | tab)
    · exact absurd range (by decide)
    · omega
  have positive : ¬ (decimalBytes number.toNat ++ rest).headD 0 = minus := by
    rw [start, List.cons_append, List.headD_cons]
    rintro rfl
    exact absurd range (by decide)
  have unsigned := skip_plus [] _ rest _ (Or.inl rfl) numeral
  have read := (read_numeral _ rest _ numeral stops).1
  rw [List.nil_append] at unsigned
  simp only [strtoul, unspaced, if_neg positive, unsigned, read, if_neg (Nat.not_le_of_lt bound)]

/-- The decimal digits of a number of 32 bits are taken for it by the driver. -/
theorem kstrtouint_decimal (number : BitVec 32) :
    kstrtouint (decimalBytes number.toNat) = .ok number.toNat := by
  rw [kstrtouint_ok_iff]
  refine ⟨[], decimalBytes number.toNat, [], ?_, Or.inl rfl, Or.inl rfl, decimal_numeral _,
    number.isLt⟩
  rw [List.nil_append, List.append_nil]

/-- A write that gets to the handler sets the register and its copy. -/
theorem write_control_delivered (pdata : SensorDev) (buf : Memory) (control : BitVec 32) :
    writeControl pdata buf control none none =
      (⟨control, Function.update pdata.registers 4 control⟩, 0) := by
  have short := decimal_short control
  have fits : (decimalBytes control.toNat).length < bufSize := by
    simp only [bufSize]
    omega
  have text := snprintf_text buf bufSize _ fits
  have whole : beforeZero (decimalBytes control.toNat) = decimalBytes control.toNat :=
    (before_zero_eq_self_iff _).mpr (decimal_nonzero _)
  have stored := control_store_ok pdata (decimalBytes control.toNat) control.toNat
    (by rw [whole, kstrtouint_decimal])
  simp only [writeControl, text, writeAttribute, stored, of_nat_to_nat]
  exact if_neg (not_not.mpr rfl)

/-- A transfer that fails is reported, and leaves the device. -/
theorem write_control_failed (pdata : SensorDev) (buf : Memory) (control : BitVec 32)
    (openError writeError : Option Errno) (failed : ¬ (openError = none ∧ writeError = none)) :
    writeControl pdata buf control openError writeError = (pdata, -1) := by
  cases openError with
  | some error => rfl
  | none =>
    cases writeError with
    | none => exact absurd ⟨rfl, rfl⟩ failed
    | some error =>
      have negative := error.ret_neg
      simp only [writeControl, writeAttribute]
      exact if_pos (by omega)

/-- A read that gets to the handler yields the register. -/
theorem read_temperature_delivered (word : Word) (pdata : SensorDev) (buf : Memory)
    (temp : BitVec 32) :
    readTemperature word pdata buf temp none none = (0, pdata.registers 0) := by
  have short := decimal_short (pdata.registers 0)
  have text : (tempShow pdata).data = decimalBytes (pdata.registers 0).toNat ++ [newline] := rfl
  have length : (tempShow pdata).data.length =
      (decimalBytes (pdata.registers 0).toNat).length + 1 := by
    rw [text, List.length_append, List.length_singleton]
  have whole : (tempShow pdata).data.take (bufSize - 1) = (tempShow pdata).data :=
    List.take_of_length_le (by rw [length]; simp only [bufSize]; omega)
  have nonzero : (0 : UInt8) ∉ (tempShow pdata).data := by
    rw [text, List.mem_append, List.mem_singleton]
    rintro (digit | line)
    · exact decimal_nonzero _ digit
    · exact absurd line (by decide)
  have string := string_stored bufSize buf (tempShow pdata).data
    (by rw [length]; simp only [bufSize]; omega)
  have positive : ¬ ((tempShow pdata).data.length : Int) ≤ 0 := by omega
  rw [(before_zero_eq_self_iff _).mpr nonzero] at string
  simp only [readTemperature, readAttribute, whole, if_neg positive, Int.toNat_natCast, string]
  rw [text, strtoul_decimal word _ [newline] (by decide), of_nat_to_nat]

/-- The program and the driver exchange every value of the registers: a write that is
reported as done has set the control register and its copy, and one that gets to the handler
is; a read that gets to the handler yields the temperature register; and the texts fit the
buffers, with their terminators. -/
theorem values_exchanged (word : Word) (pdata : SensorDev) (buf : Memory) :
    (∀ control openError writeError,
      (writeControl pdata buf control openError writeError).2 = 0 →
        (writeControl pdata buf control openError writeError).1.controlValue = control ∧
          (writeControl pdata buf control openError writeError).1.registers 4 = control) ∧
      (∀ control, (writeControl pdata buf control none none).2 = 0) ∧
      (∀ temp, readTemperature word pdata buf temp none none = (0, pdata.registers 0)) ∧
      ∀ number : BitVec 32, (decimalBytes number.toNat ++ [0]).length ≤ bufSize ∧
        (decimalBytes number.toNat ++ [newline, 0]).length ≤ bufSize := by
  refine ⟨fun control openError writeError done => ?_, fun control => ?_,
    read_temperature_delivered word pdata buf, fun number => ?_⟩
  · by_cases delivered : openError = none ∧ writeError = none
    · obtain ⟨rfl, rfl⟩ := delivered
      simp only [write_control_delivered, Function.update_self, and_self]
    · rw [write_control_failed pdata buf control _ _ delivered] at done
      exact absurd done (show ¬ (-1 : Int) = 0 by decide)
  · rw [write_control_delivered]
  · have short := decimal_short number
    simp only [List.length_append, List.length_cons, List.length_nil, bufSize]
    omega

end LddExamples.SensorApp
