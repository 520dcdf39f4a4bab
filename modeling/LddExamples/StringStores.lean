import LddExamples.KernelInterface
import LddExamples.Runs
import LddExamples.StoreLogs
import LddExamples.StringBuffers

/-!
# Strings that end in their buffer

A string is stored by a copy, which may stop early, and a terminator, which only a complete
copy is given. A copy that stops early may have overwritten the terminator that was there.
But if no copy reaches the last byte of the buffer, and nothing else is written there than a
terminator, a zero in it stays; so the string ends there, if not before, after every call
and between the stores of a call.
-/

namespace LddExamples.StringStores

open Runs ByteWindows KernelInterface StoreLogs StringBuffers

/-- The stores of a string: what the copy leaves, and if it is complete, a terminator. -/
def stringStores (source : UserSource) (count : Nat) : List Chunk :=
  ⟨0, source.landed count⟩ :: if source.uncopied count ≠ 0 then [] else [⟨count, [0]⟩]

/-- The stores are those of the copy and, if nothing is missing, of the terminator. -/
theorem string_store_all (memory : Memory) (source : UserSource) (count : Nat) :
    storeAll memory (stringStores source count) =
      if (copyFromUser memory 0 source count).2 ≠ 0 then (copyFromUser memory 0 source count).1
      else store (copyFromUser memory 0 source count).1 count [0] := by
  by_cases missing : source.uncopied count ≠ 0
  · rw [stringStores, if_pos missing,
      if_pos (show (copyFromUser memory 0 source count).2 ≠ 0 from missing)]
    rfl
  · rw [stringStores, if_neg missing,
      if_neg (show ¬ (copyFromUser memory 0 source count).2 ≠ 0 from missing)]
    rfl

/-- A store ends before the last byte, or is a terminator there. -/
def SparesLast (last : Nat) (chunk : Chunk) : Prop :=
  chunk.offset + chunk.bytes.length ≤ last ∨ (chunk.offset = last ∧ chunk.bytes = [0])

/-- Some byte up to the last one is zero, and so the string ends there. -/
def EndsInside (last : Nat) (memory : Memory) : Prop :=
  (∃ index ≤ last, memory index = 0) ∧
    ∀ terminated, (stringAt memory terminated).length ≤ last ∧
      stringAt memory terminated = stringIn (last + 1) memory

/-- The stores of a log make the later memory of the earlier one, write to no index beyond
the last byte, and leave, each of them, a string that ends inside. -/
def StoresInside (last : Nat) (earlier later : Memory) (log : List Chunk) : Prop :=
  later = storeAll earlier log ∧ (∀ index ∈ written log, index ≤ last) ∧
    ∀ taken, EndsInside last (storeAll earlier (log.take taken))

/-- A terminator in the last byte is enough. -/
theorem ends_inside_of_last (last : Nat) (memory : Memory) (zero : memory last = 0) :
    EndsInside last memory := by
  refine ⟨⟨last, le_rfl, zero⟩, fun terminated => ?_⟩
  have string := string_at_eq (last + 1) memory terminated ⟨last, Nat.lt_succ_self _, zero⟩
  rw [string]
  exact ⟨string_length_le (last + 1) memory last zero, rfl⟩

/-- A store that spares the last byte keeps it zero. -/
theorem spares_last_keeps (last : Nat) (memory : Memory) (chunk : Chunk)
    (spares : SparesLast last chunk) (zero : memory last = 0) :
    store memory chunk.offset chunk.bytes last = 0 := by
  rcases spares with before | ⟨there, terminator⟩
  · rw [store_outside memory chunk.offset chunk.bytes last (Or.inr before), zero]
  · rw [there, terminator]
    exact store_inside memory last [0] 0 Nat.zero_lt_one

/-- So do any number of them. -/
theorem last_kept (last : Nat) (memory : Memory) (log : List Chunk)
    (spare : ∀ chunk ∈ log, SparesLast last chunk) (zero : memory last = 0) :
    storeAll memory log last = 0 := by
  induction log generalizing memory with
  | nil => exact zero
  | cons chunk log inductionHypothesis =>
    rw [store_all_cons]
    apply inductionHypothesis
    · exact fun other member => spare other (List.mem_cons_of_mem _ member)
    · exact spares_last_keeps last memory chunk (spare chunk List.mem_cons_self) zero

/-- Stores that spare the last byte stay inside. -/
theorem stores_inside (last : Nat) (memory : Memory) (log : List Chunk)
    (spare : ∀ chunk ∈ log, SparesLast last chunk) (zero : memory last = 0) :
    StoresInside last memory (storeAll memory log) log := by
  refine ⟨rfl, fun index member => Nat.le_of_lt_succ (written_below log (last + 1) ?_ index member),
    fun taken => ?_⟩
  · intro chunk stored
    rcases spare chunk stored with before | ⟨there, terminator⟩
    · omega
    · rw [there, terminator, List.length_singleton]
  · apply ends_inside_of_last
    exact last_kept last memory _ (fun chunk member => spare chunk (List.mem_of_mem_take member))
      zero

/-- A string whose bytes end before the last one spares it, wherever its copy stops. -/
theorem string_stores_spare (last : Nat) (source : UserSource) (count : Nat)
    (short : count ≤ last) : ∀ chunk ∈ stringStores source count, SparesLast last chunk := by
  have landed := source.landed_length_le count
  have copied : SparesLast last ⟨0, source.landed count⟩ := Or.inl (by simp only; omega)
  intro chunk member
  simp only [stringStores, List.mem_cons] at member
  rcases member with rfl | member
  · exact copied
  · split at member
    · exact absurd member List.not_mem_nil
    · rw [List.mem_singleton.mp member]
      by_cases full : count = last
      · exact Or.inr ⟨full, rfl⟩
      · exact Or.inl (by simp only [List.length_singleton]; omega)

section Run

universe u v w
variable {σ : Type u} {α : Type v} {ρ : Type w}
variable (step : σ → α → σ × ρ) (last : Nat) (memory : σ → Memory) (stores : σ → α → List Chunk)

/-- In the state that a run reaches and in those that its calls meet, the string ends
inside; and so do all the stores of its calls. -/
def StaysInside (start : σ) (calls : List α) : Prop :=
  EndsInside last (memory (after step start calls)) ∧
    ∀ event ∈ trace step start calls, EndsInside last (memory event.before) ∧
      StoresInside last (memory event.before) (memory (event.left step))
        (stores event.before event.call)

/-- A memory whose last byte is zero stays so, if every call does nothing to it but stores
that spare the last byte. -/
theorem run_stays_inside
    (logged : ∀ state call,
      memory (step state call).1 = storeAll (memory state) (stores state call))
    (spare : ∀ state call, ∀ chunk ∈ stores state call, SparesLast last chunk) (start : σ)
    (calls : List α) (zero : memory start last = 0) :
    StaysInside step last memory stores start calls := by
  have kept : ∀ state call, memory state last = 0 → memory (step state call).1 last = 0 := by
    intro state call held
    rw [logged]
    exact last_kept last (memory state) _ (spare state call) held
  refine ⟨ends_inside_of_last last _ ?_, fun event member => ?_⟩
  · exact invariant_after step (fun state => memory state last = 0) kept start calls zero
  · have held := invariant_met step (fun state => memory state last = 0) kept start calls zero
      event member
    refine ⟨ends_inside_of_last last _ held, ?_⟩
    rw [Event.left, logged]
    exact stores_inside last (memory event.before) _ (spare event.before event.call) held

end Run

end LddExamples.StringStores
