import LddExamples.ByteWindows

/-!
# Byte files of bounded length

The content of a file is a list of bytes, no longer than a limit. A write that
starts past the end first pads the content with zeros; what would lie beyond the
limit is cut off. The buffer that stands for such a file holds the content in its
first bytes, and whatever was stored there before behind it, so a write past the
end keeps the two together exactly when the bytes of the gap are zero.
-/

namespace LddExamples.BoundedFiles

open ByteWindows

/-- The content extended with zeros up to a position, if it is shorter. -/
def padded (content : List UInt8) (position : Nat) : List UInt8 :=
  content ++ List.replicate (position - content.length) 0

/-- The content after a write: padded up to the position, and overlaid there. -/
def overlay (content : List UInt8) (position : Nat) (data : List UInt8) : List UInt8 :=
  writeAt (padded content position) position data

/-- Padding reaches the position. -/
theorem padded_length (content : List UInt8) (position : Nat) :
    (padded content position).length = max content.length position := by
  rw [padded, List.length_append, List.length_replicate]
  omega

/-- A write makes the content as long as its end, and never shorter. -/
theorem overlay_length (content : List UInt8) (position : Nat) (data : List UInt8) :
    (overlay content position data).length = max content.length (position + data.length) := by
  simp only [overlay, writeAt, List.length_append, List.length_take, List.length_drop,
    padded_length]
  omega

/-- The bytes of padded content: the content's own, then zeros up to the position. -/
theorem padded_getElem? (content : List UInt8) (position index : Nat) :
    (padded content position)[index]? =
      if index < content.length then content[index]?
      else if index < position then some 0 else none := by
  by_cases own : index < content.length
  · rw [padded, List.getElem?_append_left own, if_pos own]
  · rw [padded, List.getElem?_append_right (Nat.le_of_not_lt own), List.getElem?_replicate,
      if_neg own]
    by_cases gap : index < position
    · rw [if_pos (by omega), if_pos gap]
    · rw [if_neg (by omega), if_neg gap]

/-- The bytes after a write: those of the data in its window, elsewhere those of
the padded content. -/
theorem overlay_getElem? (content : List UInt8) (position : Nat) (data : List UInt8)
    (index : Nat) :
    (overlay content position data)[index]? =
      if position ≤ index ∧ index < position + data.length then data[index - position]?
      else (padded content position)[index]? := by
  have reach : ((padded content position).take position).length = position := by
    rw [List.length_take, padded_length]
    omega
  rw [overlay, writeAt]
  by_cases before : index < position
  · rw [if_neg (by omega), List.append_assoc, List.getElem?_append_left (by omega),
      List.getElem?_take_of_lt before]
  · by_cases covered : index < position + data.length
    · rw [if_pos (by omega), List.append_assoc, List.getElem?_append_right (by omega), reach,
        List.getElem?_append_left (by omega)]
    · have beyond : ((padded content position).take position ++ data).length ≤ index := by
        rw [List.length_append, reach]
        omega
      rw [if_neg (by omega), List.getElem?_append_right beyond, List.getElem?_drop,
        List.length_append, reach]
      congr 1
      omega

/-- A store at a position turns the content that a buffer holds into the content
after the write exactly when the buffer is zero between the two. -/
theorem store_overlay_iff (memory : Memory) (length position : Nat) (data : List UInt8) :
    load (store memory position data) 0 (max length (position + data.length)) =
        overlay (load memory 0 length) position data ↔
      ∀ index, length ≤ index → index < position → memory index = 0 := by
  have outside (index : Nat) (away : ¬ (position ≤ index ∧ index < position + data.length)) :
      store memory position data index = memory index :=
    store_outside memory position data index (by omega)
  rw [List.ext_getElem?_iff]
  constructor
  · intro same index beyond before
    have byte := same index
    rw [load_getElem?, if_pos (by omega), overlay_getElem?, if_neg (by omega), padded_getElem?,
      if_neg (by rw [load_length]; omega), if_pos before, Nat.zero_add, outside index (by omega)]
      at byte
    exact Option.some.inj byte
  · intro blank index
    rw [load_getElem?, overlay_getElem?, Nat.zero_add]
    by_cases covered : position ≤ index ∧ index < position + data.length
    · obtain ⟨distance, rfl⟩ := Nat.exists_eq_add_of_le covered.1
      have inside : distance < data.length := by omega
      rw [if_pos (by omega), if_pos covered, store_inside memory position data distance inside,
        Nat.add_sub_cancel_left, List.getElem?_eq_getElem inside]
    · rw [if_neg covered, outside index covered, padded_getElem?, load_length, load_getElem?,
        Nat.zero_add]
      by_cases own : index < length
      · rw [if_pos (by omega), if_pos own, if_pos own]
      · by_cases gap : index < position
        · rw [if_pos (by omega), if_neg own, if_pos gap, blank index (Nat.le_of_not_lt own) gap]
        · rw [if_neg (by omega), if_neg own, if_neg gap]

/-- The content of a file, with its bound. -/
structure ByteFile (limit : Nat) where
  bytes : List UInt8
  bounded : bytes.length ≤ limit

namespace ByteFile

variable {limit : Nat}

/-- The file without content. -/
def empty : ByteFile limit := ⟨[], Nat.zero_le limit⟩

/-- The file replaced by the first bytes of an input. -/
def replace (input : List UInt8) : ByteFile limit :=
  ⟨input.take limit, by rw [List.length_take]; exact Nat.min_le_left _ _⟩

/-- The file after a write of data at a position before the limit. -/
def write (file : ByteFile limit) (position : Nat) (data : List UInt8)
    (inside : position < limit) : ByteFile limit :=
  ⟨overlay file.bytes position (data.take (limit - position)), by
    have bounded := file.bounded
    rw [overlay_length, List.length_take]
    omega⟩

/-- The content after a write. -/
@[simp] theorem write_bytes (file : ByteFile limit) (position : Nat) (data : List UInt8)
    (inside : position < limit) :
    (file.write position data inside).bytes =
      overlay file.bytes position (data.take (limit - position)) := rfl

/-- The bytes that a read of a length at a position returns. -/
def read (file : ByteFile limit) (position length : Nat) : List UInt8 :=
  (file.bytes.drop position).take length

end ByteFile

end LddExamples.BoundedFiles
