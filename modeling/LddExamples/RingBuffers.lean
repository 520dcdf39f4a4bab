import Mathlib.Algebra.Order.Ring.Int
import Mathlib.Data.List.Basic
import Mathlib.Logic.Function.Basic

/-!
# Bounded queues and the rings that hold them

A bounded queue is a list no longer than its capacity: values enter at the end while
there is room and leave at the front. A ring keeps such a list in consecutive slots,
wrapping around from the last slot to the first; it needs only the first slot and
the number of values. Storing in the slot behind the last value appends, and moving
the first slot on removes the oldest. Nothing here depends on the values.
-/

namespace LddExamples.RingBuffers

universe u
variable {α : Type u}

/-- The values of a queue, oldest first, with their bound. -/
structure BoundedQueue (α : Type u) (capacity : Nat) where
  values : List α
  bounded : values.length ≤ capacity

namespace BoundedQueue

variable {capacity : Nat}

/-- The queue without values. -/
def empty : BoundedQueue α capacity := ⟨[], Nat.zero_le capacity⟩

/-- The queue with one more value, if there is room. -/
def insert (queue : BoundedQueue α capacity) (value : α) : Option (BoundedQueue α capacity) :=
  if room : queue.values.length < capacity then
    some ⟨queue.values ++ [value], by
      rw [List.length_append, List.length_singleton]
      exact room⟩
  else none

/-- The oldest value and the queue without it, if there is one. -/
def remove (queue : BoundedQueue α capacity) : Option (α × BoundedQueue α capacity) :=
  match queue with
  | ⟨[], _⟩ => none
  | ⟨oldest :: rest, bounded⟩ =>
      some (oldest, ⟨rest, by
        rw [List.length_cons] at bounded
        omega⟩)

/-- With room, a value enters at the end. -/
theorem insert_room (queue : BoundedQueue α capacity) (value : α)
    (room : queue.values.length < capacity) :
    ∃ next, queue.insert value = some next ∧ next.values = queue.values ++ [value] :=
  ⟨_, dif_pos room, rfl⟩

/-- A full queue takes no value. -/
theorem insert_full (queue : BoundedQueue α capacity) (value : α)
    (full : queue.values.length = capacity) : queue.insert value = none :=
  dif_neg (by omega)

/-- An empty queue yields no value. -/
theorem remove_empty (queue : BoundedQueue α capacity) (none : queue.values = []) :
    queue.remove = .none := by
  obtain ⟨values, bounded⟩ := queue
  simp only at none
  subst none
  rfl

/-- The oldest value leaves. -/
theorem remove_oldest (queue : BoundedQueue α capacity) (oldest : α) (rest : List α)
    (values : queue.values = oldest :: rest) :
    ∃ next, queue.remove = some (oldest, next) ∧ next.values = rest := by
  obtain ⟨listed, bounded⟩ := queue
  simp only at values
  subst values
  exact ⟨_, rfl, rfl⟩

end BoundedQueue

/-- The values in as many consecutive slots, from the first. -/
def held (cells : Int → α) (capacity first : Int) (count : Nat) : List α :=
  (List.range count).map fun distance : Nat => cells ((first + distance) % capacity)

/-- As many values are listed as there are. -/
@[simp] theorem held_length (cells : Int → α) (capacity first : Int) (count : Nat) :
    (held cells capacity first count).length = count := by
  rw [held, List.length_map, List.length_range]

/-- Different distances below the capacity lead to different slots. -/
theorem slots_differ (capacity first : Int) (near far : Nat) (apart : near < far)
    (within : (far : Int) < capacity) :
    (first + near) % capacity ≠ (first + far) % capacity := by
  intro same
  have multiple : (first + far - (first + near)) % capacity = 0 :=
    Int.emod_eq_emod_iff_emod_sub_eq_zero.mp same.symm
  have distance : first + far - (first + near) = (far : Int) - near := by omega
  rw [distance, Int.emod_eq_of_lt (by omega) (by omega)] at multiple
  omega

/-- The oldest value is in the first slot; the others follow from the next. -/
theorem held_remove (cells : Int → α) (capacity first : Int) (count : Nat)
    (lower : 0 ≤ first) (upper : first < capacity) :
    held cells capacity first (count + 1) =
      cells first :: held cells capacity ((first + 1) % capacity) count := by
  rw [held, List.range_succ_eq_map, List.map_cons, List.map_map, Int.natCast_zero, Int.add_zero,
    Int.emod_eq_of_lt lower upper, held]
  congr 1
  apply List.map_congr_left
  intro distance _
  simp only [Function.comp]
  congr 1
  rw [Int.emod_add_emod]
  congr 1
  omega

/-- A value stored in the slot behind the last one comes after the others. -/
theorem held_insert (cells : Int → α) (capacity first : Int) (count : Nat) (value : α)
    (room : (count : Int) < capacity) :
    held (Function.update cells ((first + count) % capacity) value) capacity first (count + 1) =
      held cells capacity first count ++ [value] := by
  rw [held, List.range_succ, List.map_append, List.map_singleton, Function.update_self, held]
  congr 1
  apply List.map_congr_left
  intro distance member
  have before : distance < count := List.mem_range.mp member
  exact Function.update_of_ne (slots_differ capacity first distance count before room) _ _

end LddExamples.RingBuffers
