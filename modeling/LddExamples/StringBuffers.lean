import LddExamples.ByteWindows
import Mathlib.Data.List.TakeWhile
import Mathlib.Data.Nat.Find

/-!
# Strings in fixed buffers

A string lies at the start of a buffer and ends before its first zero byte. A writer that
stores counted bytes and a terminator leaves the string of the bytes before their own first
zero, whatever the buffer held before.
-/

namespace LddExamples.StringBuffers

open ByteWindows

/-- The bytes before the first zero. -/
def beforeZero (bytes : List UInt8) : List UInt8 :=
  bytes.takeWhile (fun byte => decide (byte ≠ 0))

/-- The string in a buffer of the given size. -/
def stringIn (size : Nat) (memory : Memory) : List UInt8 := beforeZero (load memory 0 size)

/-- Bytes without a zero are all before the first one. -/
theorem before_zero_eq_self_iff (bytes : List UInt8) :
    beforeZero bytes = bytes ↔ (0 : UInt8) ∉ bytes := by
  rw [beforeZero, List.takeWhile_eq_self_iff]
  simp only [decide_eq_true_eq]
  constructor
  · exact fun nonzero member => nonzero 0 member rfl
  · exact fun absent byte member zero => absent (zero ▸ member)

/-- None of the bytes before the first zero is one. -/
theorem before_zero_nonzero (bytes : List UInt8) : (0 : UInt8) ∉ beforeZero bytes := by
  intro member
  have nonzero := List.mem_takeWhile_imp member
  exact absurd nonzero (by decide)

/-- What follows the bytes before the first zero starts with it. -/
theorem before_zero_split (bytes : List UInt8) (terminated : (0 : UInt8) ∈ bytes) :
    ∃ rest, bytes = beforeZero bytes ++ 0 :: rest := by
  induction bytes with
  | nil => exact absurd terminated List.not_mem_nil
  | cons byte rest inductionHypothesis =>
    by_cases zero : byte = 0
    · subst zero
      exact ⟨rest, rfl⟩
    · obtain ⟨later, split⟩ := inductionHypothesis
        ((List.mem_cons.mp terminated).resolve_left (Ne.symm zero))
      have kept : beforeZero (byte :: rest) = byte :: beforeZero rest :=
        List.takeWhile_cons_of_pos (by simpa using zero)
      exact ⟨later, by rw [kept, List.cons_append, ← split]⟩

/-- The bytes before the first zero and the zero are the start of the bytes. -/
theorem take_terminated (bytes : List UInt8) (terminated : (0 : UInt8) ∈ bytes) :
    (beforeZero bytes).length < bytes.length ∧
      bytes.take ((beforeZero bytes).length + 1) = beforeZero bytes ++ [0] := by
  obtain ⟨rest, split⟩ := before_zero_split bytes terminated
  generalize beforeZero bytes = start at split ⊢
  subst split
  refine ⟨?_, ?_⟩
  · rw [List.length_append, List.length_cons]
    omega
  · rw [List.take_length_add_append, List.take_succ_cons, List.take_zero]

/-- Nothing after a zero matters. -/
theorem before_zero_terminated (bytes rest : List UInt8) :
    beforeZero (bytes ++ 0 :: rest) = beforeZero bytes := by
  have stops : (0 :: rest).takeWhile (fun byte : UInt8 => decide (byte ≠ 0)) = [] :=
    List.takeWhile_cons_of_neg (by decide)
  rw [beforeZero, List.takeWhile_append, stops]
  split
  · rename_i all
    rw [List.append_nil]
    exact ((List.takeWhile_prefix _).eq_of_length all).symm
  · rfl

/-- The string is the start of the buffer. -/
theorem string_start (size : Nat) (memory : Memory) : stringIn size memory <+: load memory 0 size :=
  List.takeWhile_prefix _

/-- The string is no longer than the buffer. -/
theorem string_within (size : Nat) (memory : Memory) : (stringIn size memory).length ≤ size := by
  have within := (string_start size memory).length_le
  rwa [load_length] at within

/-- The string is the whole buffer exactly if no byte of it is zero. -/
theorem string_whole_iff (size : Nat) (memory : Memory) :
    stringIn size memory = load memory 0 size ↔ ∀ index < size, memory index ≠ 0 := by
  rw [stringIn, before_zero_eq_self_iff]
  constructor
  · intro absent index inside zero
    exact absent (List.mem_map.mpr ⟨index, List.mem_range.mpr inside, by rw [Nat.zero_add, zero]⟩)
  · intro nonzero member
    obtain ⟨index, inside, zero⟩ := List.mem_map.mp member
    rw [Nat.zero_add] at zero
    exact nonzero index (List.mem_range.mp inside) zero

/-- Loading as many bytes as the string has is loading the string. -/
theorem load_string (size : Nat) (memory : Memory) :
    load memory 0 (stringIn size memory).length = stringIn size memory := by
  have taken := List.prefix_iff_eq_take.mp (string_start size memory)
  rw [take_load, Nat.min_eq_left (string_within size memory)] at taken
  exact taken.symm

/-- The string ends at a zero byte, if not before. -/
theorem string_length_le (size : Nat) (memory : Memory) (index : Nat)
    (zero : memory index = 0) : (stringIn size memory).length ≤ index := by
  by_contra long
  have reached : index < (stringIn size memory).length := Nat.lt_of_not_le long
  have byte : (stringIn size memory)[index] = memory index := by
    have same := List.IsPrefix.getElem (string_start size memory) reached
    rw [same, load_getElem, Nat.zero_add]
  have nonzero := List.mem_takeWhile_imp (List.getElem_mem reached)
  rw [byte, zero] at nonzero
  exact absurd nonzero (by decide)

/-- The string at the start of a memory in which some byte is zero. It goes on to the first
one, wherever that is. -/
def stringAt (memory : Memory) (terminated : ∃ index, memory index = 0) : List UInt8 :=
  load memory 0 (Nat.find terminated)

/-- A string that ends in the buffer is the string in the buffer. -/
theorem string_at_eq (size : Nat) (memory : Memory) (terminated : ∃ index, memory index = 0)
    (ends : ∃ index < size, memory index = 0) :
    stringAt memory terminated = stringIn size memory := by
  obtain ⟨index, inside, zero⟩ := ends
  have short := string_length_le size memory index zero
  have member : (0 : UInt8) ∈ load memory 0 size :=
    List.mem_map.mpr ⟨index, List.mem_range.mpr inside, by rw [Nat.zero_add, zero]⟩
  obtain ⟨rest, split⟩ := before_zero_split (load memory 0 size) member
  have last : memory (stringIn size memory).length = 0 := by
    have byte : (load memory 0 size)[(stringIn size memory).length]? = some 0 := by
      rw [split, stringIn, List.getElem?_append_right le_rfl, Nat.sub_self,
        List.getElem?_cons_zero]
    rw [load_getElem?, if_pos (by omega), Nat.zero_add] at byte
    exact Option.some.inj byte
  have first : Nat.find terminated = (stringIn size memory).length := by
    rw [Nat.find_eq_iff]
    refine ⟨last, fun earlier before none => ?_⟩
    have long := string_length_le size memory earlier none
    omega
  rw [stringAt, first, load_string]

/-- No byte of the string is zero. -/
theorem string_at_nonzero (memory : Memory) (terminated : ∃ index, memory index = 0) :
    (0 : UInt8) ∉ stringAt memory terminated := by
  intro member
  obtain ⟨index, before, zero⟩ := List.mem_map.mp member
  rw [Nat.zero_add] at zero
  exact Nat.find_min terminated (List.mem_range.mp before) zero

/-- Stored bytes and a terminator leave the string of the bytes before their first zero. -/
theorem string_stored (size : Nat) (memory : Memory) (bytes : List UInt8)
    (fits : bytes.length < size) :
    stringIn size (store (store memory 0 bytes) bytes.length [0]) = beforeZero bytes := by
  have joined := store_append memory 0 bytes [0]
  rw [Nat.zero_add] at joined
  have split : load (store memory 0 (bytes ++ [0])) 0 size =
      bytes ++ 0 :: load (store memory 0 (bytes ++ [0])) (bytes.length + 1)
        (size - (bytes.length + 1)) := by
    have parts := load_append (store memory 0 (bytes ++ [0])) 0 (bytes ++ [0]).length
      (size - (bytes.length + 1))
    rw [load_store_same, List.length_append, List.length_singleton, Nat.zero_add,
      List.append_assoc, List.singleton_append] at parts
    rw [parts]
    congr 1
    omega
  rw [joined, stringIn, split, before_zero_terminated]

end LddExamples.StringBuffers
