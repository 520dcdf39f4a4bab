import Mathlib.Data.List.Basic

/-!
# Byte windows of an unbounded memory

A memory gives the byte at every index from a base address. It has no end: the
size of the array that lives at the base is not part of it, so a store that runs
past an array changes the memory there, and an array's bound is a frame law
about the operations on it rather than a property built into its type.

A window is a run of consecutive indices. Storing a list replaces exactly the
window of its length; loading lists a window's bytes in order.
-/

namespace LddExamples.ByteWindows

/-- The bytes from a base address upward. -/
abbrev Memory := Nat → UInt8

/-- Replace the window at the offset by the listed bytes. -/
def store (memory : Memory) (offset : Nat) (bytes : List UInt8) : Memory :=
  fun index => if offset ≤ index then bytes.getD (index - offset) (memory index) else memory index

/-- The bytes of the window of the given length at the offset, in order. -/
def load (memory : Memory) (offset count : Nat) : List UInt8 :=
  (List.range count).map (fun index => memory (offset + index))

/-- Set every byte of a window to one value. -/
def fill (memory : Memory) (offset count : Nat) (value : UInt8) : Memory :=
  store memory offset (List.replicate count value)

/-- Write a list into a file at a position; a file grows at its end. -/
def writeAt (file : List UInt8) (position : Nat) (bytes : List UInt8) : List UInt8 :=
  file.take position ++ bytes ++ file.drop (position + bytes.length)

/-- Inside the window the stored byte is read back. -/
theorem store_inside (memory : Memory) (offset : Nat) (bytes : List UInt8) (index : Nat)
    (inside : index < bytes.length) :
    store memory offset bytes (offset + index) = bytes[index] := by
  simp [store, inside]

/-- Outside the window nothing changes. -/
theorem store_outside (memory : Memory) (offset : Nat) (bytes : List UInt8) (index : Nat)
    (outside : index < offset ∨ offset + bytes.length ≤ index) :
    store memory offset bytes index = memory index := by
  rcases outside with before | beyond
  · exact if_neg (Nat.not_le_of_gt before)
  · have absent : bytes.length ≤ index - offset := by omega
    simp [store, List.getElem?_eq_none absent]

/-- Storing nothing changes nothing. -/
@[simp] theorem store_nil (memory : Memory) (offset : Nat) : store memory offset [] = memory := by
  funext index
  exact store_outside memory offset [] index (by simp only [List.length_nil]; omega)

/-- A filled window holds the value. -/
theorem fill_inside (memory : Memory) (offset count : Nat) (value : UInt8) (index : Nat)
    (lower : offset ≤ index) (upper : index < offset + count) :
    fill memory offset count value index = value := by
  obtain ⟨distance, rfl⟩ := Nat.exists_eq_add_of_le lower
  have inside : distance < (List.replicate count value).length := by
    rw [List.length_replicate]
    omega
  exact (store_inside memory offset _ distance inside).trans (List.getElem_replicate inside)

/-- Filling a window changes nothing outside it. -/
theorem fill_outside (memory : Memory) (offset count : Nat) (value : UInt8) (index : Nat)
    (outside : index < offset ∨ offset + count ≤ index) :
    fill memory offset count value index = memory index :=
  store_outside memory offset _ index (by rwa [List.length_replicate])

/-- As many bytes are loaded as were asked for. -/
@[simp] theorem load_length (memory : Memory) (offset count : Nat) :
    (load memory offset count).length = count := by
  simp [load]

/-- Loading no byte gives none. -/
@[simp] theorem load_zero (memory : Memory) (offset : Nat) : load memory offset 0 = [] := rfl

/-- The listed bytes are the window's, in order. -/
@[simp] theorem load_getElem (memory : Memory) (offset count index : Nat)
    (inside : index < (load memory offset count).length) :
    (load memory offset count)[index] = memory (offset + index) := by
  simp [load]

/-- A window has no byte at or beyond its length. -/
theorem load_getElem? (memory : Memory) (offset count index : Nat) :
    (load memory offset count)[index]? =
      if index < count then some (memory (offset + index)) else none := by
  by_cases inside : index < count
  · simp [load, inside]
  · simp [load, inside]

/-- Two windows of one length list the same bytes exactly when the memories
agree there. -/
theorem load_eq_iff (memory other : Memory) (offset otherOffset count : Nat) :
    load memory offset count = load other otherOffset count ↔
      ∀ index < count, memory (offset + index) = other (otherOffset + index) := by
  simp [load]

/-- The stored window loads as the stored list. -/
theorem load_store_same (memory : Memory) (offset : Nat) (bytes : List UInt8) :
    load (store memory offset bytes) offset bytes.length = bytes := by
  apply List.ext_getElem (load_length _ _ _)
  intro index _ inside
  rw [load_getElem]
  exact store_inside memory offset bytes index inside

/-- A store that goes on where another ends is part of one store of both lists. -/
theorem store_append (memory : Memory) (offset : Nat) (first second : List UInt8) :
    store (store memory offset first) (offset + first.length) second =
      store memory offset (first ++ second) := by
  funext index
  by_cases later : offset + first.length ≤ index
  · have past : first.length ≤ index - offset := by omega
    have reached : offset ≤ index := by omega
    have distance : index - offset - first.length = index - (offset + first.length) := by omega
    simp only [store, later, reached, if_true, List.getD_eq_getElem?_getD,
      List.getElem?_append_right past, distance, List.getElem?_eq_none past, Option.getD_none]
  · by_cases reached : offset ≤ index
    · have inside : index - offset < first.length := by omega
      simp only [store, later, reached, if_true, if_false, List.getD_eq_getElem?_getD,
        List.getElem?_append_left inside]
    · simp only [store, later, reached, if_false]

/-- Adjacent windows join. -/
theorem load_append (memory : Memory) (offset first second : Nat) :
    load memory offset first ++ load memory (offset + first) second =
      load memory offset (first + second) := by
  simp [load, List.range_add, Nat.add_assoc]

/-- Writing a window's bytes at the end of a file that holds the window before
it extends the file by that window. -/
theorem writeAt_load (memory : Memory) (position count : Nat) :
    writeAt (load memory 0 position) position (load memory position count) =
      load memory 0 (position + count) := by
  have whole : (load memory 0 position).take position = load memory 0 position :=
    List.take_of_length_le (Nat.le_of_eq (load_length memory 0 position))
  have spent :
      (load memory 0 position).drop (position + (load memory position count).length) = [] :=
    List.drop_eq_nil_of_le (by simp only [load_length]; omega)
  have joined := load_append memory 0 position count
  rw [Nat.zero_add] at joined
  rw [writeAt, whole, spent, List.append_nil, joined]

/-- The first bytes of a window are a shorter window at the same offset. -/
theorem take_load (memory : Memory) (offset count taken : Nat) :
    (load memory offset count).take taken = load memory offset (min taken count) := by
  simp [load, ← List.map_take, List.take_range]

/-- Dropping bytes of a window advances its offset. -/
theorem drop_load (memory : Memory) (offset count dropped : Nat) :
    (load memory offset count).drop dropped = load memory (offset + dropped) (count - dropped) := by
  apply List.ext_getElem (by simp)
  intro index _ _
  simp [Nat.add_assoc]

/-- The listed bytes are those already in their window, as far as the window
lies below the limit. -/
def Matches (memory : Memory) (offset limit : Nat) (bytes : List UInt8) : Prop :=
  ∀ index (inside : index < bytes.length), offset + index < limit →
    bytes[index] = memory (offset + index)

/-- A store leaves everything below a limit as it was exactly when the stored
bytes match what they replace there. -/
theorem store_unseen_iff (memory : Memory) (offset limit : Nat) (bytes : List UInt8) :
    (∀ index < limit, store memory offset bytes index = memory index) ↔
      Matches memory offset limit bytes := by
  constructor
  · intro unchanged index inside below
    exact (store_inside memory offset bytes index inside).symm.trans (unchanged _ below)
  · intro matched index below
    by_cases inside : offset ≤ index ∧ index < offset + bytes.length
    · obtain ⟨distance, rfl⟩ := Nat.exists_eq_add_of_le inside.1
      have within : distance < bytes.length := by omega
      rw [store_inside memory offset bytes distance within]
      exact matched distance within below
    · exact store_outside memory offset bytes index (by omega)

end LddExamples.ByteWindows
