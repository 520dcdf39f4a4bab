import LddExamples.ByteWindows

/-!
# Logs of stores

A log lists the stores of an operation in order, each with the offset and the bytes. What a
log writes to, it writes to whatever stood there, so the indices of a log say more than the
changes that it makes. Nothing else is written. A log stays in an array if all its stores
end there.
-/

namespace LddExamples.StoreLogs

open ByteWindows

/-- A store of these bytes at the offset. -/
structure Chunk where
  offset : Nat
  bytes : List UInt8

/-- The indices that a store writes to. -/
def Chunk.indices (chunk : Chunk) : List Nat :=
  (List.range chunk.bytes.length).map (chunk.offset + ·)

/-- The memory after the stores of a log. -/
def storeAll (memory : Memory) (log : List Chunk) : Memory :=
  log.foldl (fun memory chunk => store memory chunk.offset chunk.bytes) memory

/-- The indices that a log writes to. -/
def written (log : List Chunk) : List Nat := log.flatMap Chunk.indices

/-- A log without stores changes nothing. -/
@[simp] theorem store_all_nil (memory : Memory) : storeAll memory [] = memory := rfl

/-- The first store of a log comes first. -/
@[simp] theorem store_all_cons (memory : Memory) (chunk : Chunk) (log : List Chunk) :
    storeAll memory (chunk :: log) = storeAll (store memory chunk.offset chunk.bytes) log := rfl

/-- An index is written to by a store whose window it lies in. -/
theorem mem_written_iff (log : List Chunk) (index : Nat) :
    index ∈ written log ↔
      ∃ chunk ∈ log, chunk.offset ≤ index ∧ index < chunk.offset + chunk.bytes.length := by
  simp only [written, Chunk.indices, List.mem_flatMap, List.mem_map, List.mem_range]
  constructor
  · rintro ⟨chunk, member, distance, inside, rfl⟩
    exact ⟨chunk, member, by omega, by omega⟩
  · rintro ⟨chunk, member, lower, upper⟩
    exact ⟨chunk, member, index - chunk.offset, by omega, by omega⟩

/-- A log whose stores end in an array writes to no index beyond it. -/
theorem written_below (log : List Chunk) (size : Nat)
    (ends : ∀ chunk ∈ log, chunk.offset + chunk.bytes.length ≤ size) :
    ∀ index ∈ written log, index < size := by
  intro index member
  obtain ⟨chunk, stored, _, upper⟩ := (mem_written_iff log index).mp member
  have inside := ends chunk stored
  omega

end LddExamples.StoreLogs
