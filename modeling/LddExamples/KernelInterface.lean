import LddExamples.ByteWindows
import Mathlib.Algebra.Order.Ring.Int

/-!
# What a character driver sees of the kernel around it

Error codes, C integers, user copies and file positions, as their documented
behaviour has them. A user copy is described by what the user memory delivers:
the bytes before its first fault, and for a copy to the user the room before its
first fault. Every stopping point of a copy is therefore a value, not an
assumption.

A handler is called with an offset: the position of the open file, or the
position of a positioned call. The caller caps the requested length, and commits
the offset that the handler leaves to the file only for an unpositioned call.
-/

namespace LddExamples.KernelInterface

open ByteWindows

@[simp] def eperm : Int := 1
@[simp] def eio : Int := 5
@[simp] def eagain : Int := 11
@[simp] def enomem : Int := 12
@[simp] def efault : Int := 14
@[simp] def einval : Int := 22
@[simp] def enotty : Int := 25
@[simp] def enospc : Int := 28
@[simp] def etimedout : Int := 110
@[simp] def erestartsys : Int := 512

/-- An error that a kernel call can return: a code between 1 and 4095, which is
also the range that an error pointer can carry. -/
structure Errno where
  code : Nat
  positive : 0 < code
  bounded : code ≤ 4095
deriving DecidableEq

/-- The negative value by which a call reports the error. -/
def Errno.ret (error : Errno) : Int := -error.code

/-- A reported error is negative. -/
theorem Errno.ret_neg (error : Errno) : error.ret < 0 := by
  have positive := error.positive
  simp only [Errno.ret]
  omega

/-- The value of an integer converted to a signed type of the given width. -/
def wrapSigned (width : Nat) (value : Int) : Int := value.bmod (2 ^ width)

/-- The value of an integer converted to an unsigned type of the given width. -/
def wrapUnsigned (width : Nat) (value : Int) : Nat := (value % 2 ^ width).toNat

/-- The two kinds of kernel, by the width of `size_t` and `long`. -/
inductive Word where
  | bits32
  | bits64
deriving DecidableEq

/-- The bits of a `size_t`. -/
def Word.bits : Word → Nat
  | .bits32 => 32
  | .bits64 => 64

/-- The value of a comparison or sum of a `loff_t` with a `size_t`: both become
unsigned where `size_t` has 64 bits, and signed 64-bit numbers where it is narrower. -/
def Word.mixed (word : Word) (value : Int) : Int :=
  match word with
  | .bits32 => wrapSigned 64 value
  | .bits64 => wrapUnsigned 64 value

/-- A nonnegative number below 2^63 is its own value in the common type. -/
theorem Word.mixed_exact (word : Word) (value : Int) (lower : 0 ≤ value) (upper : value < 2 ^ 63) :
    word.mixed value = value := by
  cases word with
  | bits32 =>
    simp only [Word.mixed, wrapSigned, Int.bmod_def]
    omega
  | bits64 =>
    simp only [Word.mixed, wrapUnsigned]
    omega

/-- The four bytes of a C int, least significant first. -/
def intBytes (value : BitVec 32) : List UInt8 :=
  (List.range 4).map (fun index => UInt8.ofNat (value.toNat / 256 ^ index))

/-- The unsigned number that a list of bytes denotes, least significant first. -/
def littleEndian : List UInt8 → Nat
  | [] => 0
  | byte :: rest => byte.toNat + 256 * littleEndian rest

/-- The C int that four bytes denote. -/
def decodeInt (bytes : List UInt8) : Int := wrapSigned 32 (littleEndian bytes)

/-- An int is read back from its own bytes. -/
theorem decodeInt_intBytes (value : BitVec 32) : decodeInt (intBytes value) = value.toInt := by
  have digits : littleEndian (intBytes value) = value.toNat := by
    have bound : value.toNat < 2 ^ 32 := value.isLt
    simp only [intBytes, List.range, List.range.loop, List.map_cons, List.map_nil, littleEndian,
      UInt8.toNat_ofNat']
    omega
  rw [decodeInt, digits, BitVec.toInt_eq_toNat_bmod]
  rfl

/-- The characters of a number as the kernel prints them. -/
def decimalBytes (number : Nat) : List UInt8 :=
  (Nat.toDigits 10 number).map fun digit => UInt8.ofNat digit.toNat

/-- The characters of a text without placeholders. -/
def textBytes (text : String) : List UInt8 :=
  text.toList.map fun character => UInt8.ofNat character.toNat

/-- A number below a power of ten has at most as many digits as the exponent. -/
theorem decimal_bytes_length_le (number digits : Nat) (some : 0 < digits)
    (below : number < 10 ^ digits) : (decimalBytes number).length ≤ digits := by
  rw [decimalBytes, List.length_map]
  exact (Nat.length_toDigits_le_iff (by decide) some).mpr below

/-- What a copy from user memory meets at its source address: the bytes it can
fetch before the first fault, and whether a fault clears the rest of the
destination. Both kinds of kernel are covered. -/
structure UserSource where
  bytes : List UInt8
  padded : Bool

namespace UserSource

/-- The number of requested bytes that were not fetched; zero is success. -/
def uncopied (source : UserSource) (count : Nat) : Nat := count - source.bytes.length

/-- The bytes that a copy of the given length leaves at its destination. -/
def landed (source : UserSource) (count : Nat) : List UInt8 :=
  source.bytes.take count ++
    (if source.padded then List.replicate (source.uncopied count) 0 else [])

/-- A user address at which exactly these bytes can be fetched. -/
def ofBytes (bytes : List UInt8) : UserSource := ⟨bytes, false⟩

/-- No copy reaches past the requested length. -/
theorem landed_length_le (source : UserSource) (count : Nat) :
    (source.landed count).length ≤ count := by
  simp only [landed, uncopied]
  split <;> simp only [List.length_append, List.length_take, List.length_replicate, List.length_nil]
    <;> omega

/-- A complete copy leaves exactly the fetched bytes. -/
theorem landed_complete (source : UserSource) (count : Nat) (complete : source.uncopied count = 0) :
    source.landed count = source.bytes.take count := by
  simp [landed, complete]

/-- A complete copy leaves as many bytes as were requested. -/
theorem landed_length_complete (source : UserSource) (count : Nat)
    (complete : source.uncopied count = 0) : (source.landed count).length = count := by
  rw [landed_complete source count complete, List.length_take]
  simp only [uncopied] at complete
  omega

/-- The whole of a listed source can be fetched. -/
@[simp] theorem uncopied_ofBytes (bytes : List UInt8) : (ofBytes bytes).uncopied bytes.length = 0 :=
  Nat.sub_self _

/-- A listed source lands its first bytes and clears nothing. -/
@[simp] theorem landed_ofBytes (bytes : List UInt8) (count : Nat) :
    (ofBytes bytes).landed count = bytes.take count :=
  List.append_nil _

/-- Every requested byte lands, or none does. -/
def Whole (source : UserSource) (count : Nat) : Prop :=
  source.uncopied count = 0 ∨ source.landed count = []

end UserSource

/-- Copy into a buffer. The second component is the number of bytes missing. -/
def copyFromUser (memory : Memory) (offset : Nat) (source : UserSource) (count : Nat) :
    Memory × Nat :=
  (store memory offset (source.landed count), source.uncopied count)

/-- Copy one int into a local variable; a fault yields no value. -/
def copyIntFromUser (source : UserSource) : Option Int :=
  if source.uncopied 4 ≠ 0 then none else some (decodeInt (source.landed 4))

/-- Copy one byte into a local variable; a fault yields no value. -/
def copyByteFromUser (source : UserSource) : Option UInt8 :=
  if source.uncopied 1 ≠ 0 then none else (source.landed 1).head?

/-- The bytes stored at a user address with this much room before its first
fault, and the number of bytes missing. -/
def copyToUser (bytes : List UInt8) (room : Nat) : List UInt8 × Nat :=
  (bytes.take room, bytes.length - room)

/-- An int has four bytes. -/
@[simp] theorem int_bytes_length (value : BitVec 32) : (intBytes value).length = 4 := by
  simp only [intBytes, List.length_map, List.length_range]

/-- With room for it, an int is copied completely. -/
theorem copy_int_complete (value : BitVec 32) (room : Nat) (roomy : 4 ≤ room) :
    copyToUser (intBytes value) room = (intBytes value, 0) := by
  have whole : (intBytes value).take room = intBytes value :=
    List.take_of_length_le (by rw [int_bytes_length]; exact roomy)
  simp only [copyToUser, whole, int_bytes_length, Nat.sub_eq_zero_of_le roomy]

/-- Without, some of it is missing. -/
theorem copy_int_short (value : BitVec 32) (room : Nat) (short : room < 4) :
    (copyToUser (intBytes value) room).2 ≠ 0 := by
  simp only [copyToUser, int_bytes_length]
  omega

/-- What a complete call tells its caller: the return value and the bytes it has
delivered, to user memory or, for a backup, to the file. -/
structure Reply where
  ret : Int
  data : List UInt8
deriving DecidableEq

/-- What a read handler leaves: its return value, the offset, and the bytes it
has stored in user memory. -/
structure Served where
  ret : Int
  offset : Nat
  data : List UInt8
deriving DecidableEq

/-- What a write handler leaves: the state, its return value and the offset. -/
structure Stored (σ : Type) where
  state : σ
  ret : Int
  offset : Nat

/-- The kernel's helper for reads from a flat buffer. A copy that stops half way
is a short read; one that copies nothing is a fault. -/
def simpleReadFromBuffer (memory : Memory) (available offset count room : Nat) : Served :=
  if available ≤ offset ∨ count = 0 then ⟨0, offset, []⟩
  else
    let count := min count (available - offset)
    let (data, missing) := copyToUser (load memory offset count) room
    if missing = count then ⟨-efault, offset, []⟩
    else ⟨((count - missing : Nat) : Int), offset + (count - missing), data⟩

/-- The helper depends only on the bytes below the available length. -/
theorem simple_read_congr (memory other : Memory) (available offset count room : Nat)
    (agree : ∀ index < available, memory index = other index) :
    simpleReadFromBuffer memory available offset count room =
      simpleReadFromBuffer other available offset count room := by
  have same : load memory offset (min count (available - offset)) =
      load other offset (min count (available - offset)) := by
    rw [load_eq_iff]
    intro index inside
    exact agree _ (by omega)
  simp only [simpleReadFromBuffer, same]

/-- The helper moves the offset forward, and never past the available length. -/
theorem simple_read_offset (memory : Memory) (available offset count room : Nat) :
    offset ≤ (simpleReadFromBuffer memory available offset count room).offset ∧
      (simpleReadFromBuffer memory available offset count room).offset ≤ max offset available := by
  by_cases ended : available ≤ offset ∨ count = 0
  · simp only [simpleReadFromBuffer, if_pos ended]
    exact ⟨Nat.le_refl _, Nat.le_max_left _ _⟩
  · simp only [simpleReadFromBuffer, if_neg ended]
    split
    · exact ⟨Nat.le_refl _, Nat.le_max_left _ _⟩
    · simp only
      omega

/-- The helper stores exactly the bytes over which it moves the offset. -/
theorem simple_read_data (memory : Memory) (available offset count room : Nat) :
    (simpleReadFromBuffer memory available offset count room).data =
      load memory offset
        ((simpleReadFromBuffer memory available offset count room).offset - offset) := by
  by_cases ended : available ≤ offset ∨ count = 0
  · simp only [simpleReadFromBuffer, if_pos ended, Nat.sub_self, load_zero]
  · simp only [simpleReadFromBuffer, if_neg ended, copyToUser, load_length]
    split
    · simp only [Nat.sub_self, load_zero]
    · have moved : min count (available - offset) - (min count (available - offset) - room) =
          min room (min count (available - offset)) := by omega
      simp only [take_load, moved, Nat.add_sub_cancel_left]

/-- With room for the whole request, a read inside the buffer returns the bytes
from the offset to the request's or the buffer's end. -/
theorem simple_read_served (memory : Memory) (available offset count room : Nat)
    (inside : offset < available) (requested : 0 < count) (roomy : count ≤ room) :
    simpleReadFromBuffer memory available offset count room =
      ⟨((min count (available - offset) : Nat) : Int), offset + min count (available - offset),
        load memory offset (min count (available - offset))⟩ := by
  have reached : ¬ (available ≤ offset ∨ count = 0) := by omega
  have missing : (load memory offset (min count (available - offset))).length - room = 0 := by
    rw [load_length]
    omega
  have whole : (load memory offset (min count (available - offset))).take room =
      load memory offset (min count (available - offset)) :=
    List.take_of_length_le (by rw [load_length]; omega)
  have moved : ¬ (0 = min count (available - offset)) := by omega
  simp only [simpleReadFromBuffer, copyToUser, if_neg reached, missing, whole, if_neg moved,
    Nat.sub_zero]

/-- The common shape of a handler that reads a flat buffer of a given length:
nothing at its end, otherwise the requested bytes up to the end, or a fault. -/
def windowRead (memory : Memory) (limit offset length room : Nat) : Served :=
  if limit ≤ offset then ⟨0, offset, []⟩
  else
    let length := min length (limit - offset)
    let (data, missing) := copyToUser (load memory offset length) room
    if missing ≠ 0 then ⟨-efault, offset, data⟩ else ⟨length, offset + length, data⟩

/-- A successful window read returns the clamped length, the bytes there, and
the advanced offset. -/
theorem window_read_success (memory : Memory) (limit offset length room : Nat)
    (success : 0 ≤ (windowRead memory limit offset length room).ret) :
    windowRead memory limit offset length room =
      ⟨((min length (limit - offset) : Nat) : Int), offset + min length (limit - offset),
        load memory offset (min length (limit - offset))⟩ := by
  by_cases past : limit ≤ offset
  · have none : min length (limit - offset) = 0 := by omega
    rw [none]
    simp [windowRead, past]
  · by_cases missing : min length (limit - offset) - room = 0
    · have whole : (load memory offset (min length (limit - offset))).take room =
          load memory offset (min length (limit - offset)) :=
        List.take_of_length_le (by rw [load_length]; omega)
      simp [windowRead, copyToUser, past, missing, whole]
    · simp [windowRead, copyToUser, past, missing] at success

/-- With room for the whole request, the helper is a window read. -/
theorem simple_read_window (memory : Memory) (available offset count room : Nat)
    (roomy : count ≤ room) :
    simpleReadFromBuffer memory available offset count room =
      windowRead memory available offset count room := by
  by_cases past : available ≤ offset
  · simp only [simpleReadFromBuffer, windowRead, past, true_or, if_true]
  · by_cases requested : 0 < count
    · have inside := Nat.lt_of_not_le past
      have whole : (load memory offset (min count (available - offset))).take room =
          load memory offset (min count (available - offset)) :=
        List.take_of_length_le (by rw [load_length]; omega)
      have missing : min count (available - offset) - room = 0 := by omega
      rw [simple_read_served memory available offset count room inside requested roomy]
      simp only [windowRead, if_neg past, copyToUser, load_length, missing, whole, ne_eq,
        not_true_eq_false, if_false]
    · obtain rfl : count = 0 := by omega
      simp [simpleReadFromBuffer, windowRead, past, copyToUser]

/-- A read of one byte below the limit returns that byte. -/
theorem window_read_byte (memory : Memory) (limit index : Nat) (below : index < limit) :
    (windowRead memory limit index 1 1).data = [memory index] := by
  have one : min 1 (limit - index) = 1 := by omega
  simp [windowRead, copyToUser, Nat.not_le_of_lt below, one, load]

/-- Window reads of two memories agree at every offset and length exactly when
the memories agree below the limit. -/
theorem window_read_agree_iff (memory other : Memory) (limit : Nat) :
    (∀ offset length room,
      windowRead memory limit offset length room = windowRead other limit offset length room) ↔
      ∀ index < limit, memory index = other index := by
  constructor
  · intro same index below
    have bytes := congrArg Served.data (same index 1 1)
    rw [window_read_byte memory limit index below, window_read_byte other limit index below]
      at bytes
    exact (List.cons.inj bytes).1
  · intro agree offset length room
    have same : load memory offset (min length (limit - offset)) =
        load other offset (min length (limit - offset)) := by
      rw [load_eq_iff]
      intro index inside
      exact agree _ (by omega)
    simp only [windowRead, same]

/-- The largest length that the caller of a handler passes on. -/
def maxRwCount : Nat := 0x7ffff000

/-- A request for one byte is not cut. -/
theorem one_admitted : min 1 maxRwCount = 1 := by decide

/-- The positions below this one are those that a `loff_t` can hold; a positioned
call at another is refused by the caller. -/
def loffLimit : Nat := 2 ^ 63

/-- The start of a file is a position. -/
theorem start_admitted : 0 < loffLimit := by decide

/-- Where a call reads or writes: at the open file's own position, or at an
explicit position, as the positioned calls do. -/
inductive Place where
  | current : Place
  | fixed : Nat → Place
deriving DecidableEq

/-- The positions of the open files. -/
abbrev Positions := Nat → Nat

/-- The offset that a call passes to the handler. -/
def Place.offset (place : Place) (positions : Positions) (file : Nat) : Nat :=
  match place with
  | .current => positions file
  | .fixed position => position

/-- The file positions once the handler has left its offset. A positioned call
moves no file. -/
def Place.commit (place : Place) (positions : Positions) (file offset : Nat) : Positions :=
  match place with
  | .current => Function.update positions file offset
  | .fixed _ => positions

/-- A commit moves no other file. -/
theorem Place.commit_other (place : Place) (positions : Positions) (file offset other : Nat)
    (different : other ≠ file) : place.commit positions file offset other = positions other := by
  cases place with
  | current => exact Function.update_of_ne different _ _
  | fixed position => rfl

/-- Committing an unmoved offset moves no file. -/
@[simp] theorem Place.commit_offset (place : Place) (positions : Positions) (file : Nat) :
    place.commit positions file (place.offset positions file) = positions := by
  cases place with
  | current => exact Function.update_eq_self file positions
  | fixed position => rfl

end LddExamples.KernelInterface
