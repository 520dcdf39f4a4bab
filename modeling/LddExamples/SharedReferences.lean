import Mathlib.Data.List.Basic

/-!
# References that holders share

Holders refer to targets under names of their own, as processes refer to open files by
descriptors. A target is held while some reference is to it. Copying the references of
one holder to another holds nothing new, and removing a reference gives up nothing but
its target, and that only when it was the last. Nothing here depends on what holders,
names and targets are.
-/

namespace LddExamples.SharedReferences

variable {κ ν φ : Type}

/-- A holder knows a target under a name. -/
structure Reference (κ ν φ : Type) where
  holder : κ
  name : ν
  target : φ
deriving DecidableEq

/-- Some reference is to the target. -/
def Held (references : List (Reference κ ν φ)) (target : φ) : Prop :=
  ∃ reference ∈ references, reference.target = target

instance [DecidableEq φ] (references : List (Reference κ ν φ)) (target : φ) :
    Decidable (Held references target) :=
  inferInstanceAs (Decidable (∃ reference ∈ references, reference.target = target))

/-- The reference of a holder under a name. -/
def lookup [DecidableEq κ] [DecidableEq ν] (references : List (Reference κ ν φ)) (holder : κ)
    (name : ν) : Option (Reference κ ν φ) :=
  references.find? fun reference => decide (reference.holder = holder ∧ reference.name = name)

/-- Another holder receives the references of a holder, under the same names. -/
def share [DecidableEq κ] (references : List (Reference κ ν φ)) (holder other : κ) :
    List (Reference κ ν φ) :=
  references ++ (references.filter fun reference => decide (reference.holder = holder)).map
    fun reference => { reference with holder := other }

/-- A reference that is found is one of those listed, of the holder. -/
theorem lookup_mem [DecidableEq κ] [DecidableEq ν] (references : List (Reference κ ν φ))
    (holder : κ) (name : ν) (reference : Reference κ ν φ)
    (found : lookup references holder name = some reference) :
    reference ∈ references ∧ reference.holder = holder := by
  have matching := List.find?_some found
  exact ⟨List.mem_of_find?_eq_some found, (of_decide_eq_true matching).1⟩

/-- What more is referred to is held as well. -/
theorem held_cons (references : List (Reference κ ν φ)) (reference : Reference κ ν φ)
    (target : φ) :
    Held (reference :: references) target ↔ reference.target = target ∨ Held references target := by
  simp only [Held, List.exists_mem_cons_iff]

/-- Sharing references holds the same targets. -/
theorem held_share [DecidableEq κ] (references : List (Reference κ ν φ)) (holder other : κ)
    (target : φ) : Held (share references holder other) target ↔ Held references target := by
  constructor
  · rintro ⟨reference, member, same⟩
    rcases List.mem_append.mp member with before | copied
    · exact ⟨reference, before, same⟩
    · obtain ⟨original, filtered, rfl⟩ := List.mem_map.mp copied
      exact ⟨original, List.mem_of_mem_filter filtered, same⟩
  · rintro ⟨reference, member, same⟩
    exact ⟨reference, List.mem_append_left _ member, same⟩

/-- Removing a reference leaves every other target as it is. -/
theorem held_erase [DecidableEq κ] [DecidableEq ν] [DecidableEq φ]
    (references : List (Reference κ ν φ)) (reference : Reference κ ν φ) (target : φ)
    (other : reference.target ≠ target) :
    Held (references.erase reference) target ↔ Held references target := by
  constructor
  · rintro ⟨kept, member, same⟩
    exact ⟨kept, List.mem_of_mem_erase member, same⟩
  · rintro ⟨kept, member, same⟩
    have different : kept ≠ reference := by
      rintro rfl
      exact other same
    exact ⟨kept, (List.mem_erase_of_ne different).mpr member, same⟩

/-- What is held after a removal was held before. -/
theorem held_of_erase [DecidableEq κ] [DecidableEq ν] [DecidableEq φ]
    (references : List (Reference κ ν φ)) (reference : Reference κ ν φ) (target : φ)
    (held : Held (references.erase reference) target) : Held references target := by
  obtain ⟨kept, member, same⟩ := held
  exact ⟨kept, List.mem_of_mem_erase member, same⟩

end LddExamples.SharedReferences
