import Mathlib.Data.List.Nodup
import Mathlib.Logic.Function.Basic

/-!
# Rings of doubly linked cells

A cell has a link to the next cell and one to the previous. A chain from one cell to
another goes through a list of cells, and each of its links forward has its link back;
a ring is a chain from a cell, its head, back to itself through distinct cells. Linking
a cell in front of the head extends the ring at its end, unlinking a cell removes it
from wherever it is, and the ring read backward is the ring of the reversed list.
Nothing here depends on what the cells hold.
-/

namespace LddExamples.LinkedRings

universe u
variable {α : Type u}

/-- The two links of every cell. -/
structure Links (α : Type u) where
  next : α → α
  prev : α → α

/-- Links forward and back from the first cell through the listed cells to the last. -/
def Chain (links : Links α) : α → List α → α → Prop
  | first, [], last => links.next first = last ∧ links.prev last = first
  | first, cell :: rest, last =>
      links.next first = cell ∧ links.prev cell = first ∧ Chain links cell rest last

/-- A chain from the head back to it, through distinct cells. -/
structure Ring (links : Links α) (head : α) (cells : List α) : Prop where
  chain : Chain links head cells head
  distinct : (head :: cells).Nodup

/-- The first of the cells, or the end behind them. -/
def firstOr (cells : List α) (last : α) : α := cells.headD last

/-- Without cells, the first is what lies behind them. -/
@[simp] theorem firstOr_nil (last : α) : firstOr [] last = last := rfl

/-- Otherwise it is the first of them. -/
@[simp] theorem firstOr_cons (cell : α) (rest : List α) (last : α) :
    firstOr (cell :: rest) last = cell := rfl

/-- A chain splits at each of its cells. -/
theorem chain_append (links : Links α) (first last middle : α) (before later : List α) :
    Chain links first (before ++ middle :: later) last ↔
      Chain links first before middle ∧ Chain links middle later last := by
  induction before generalizing first with
  | nil => simp only [List.nil_append, Chain, and_assoc]
  | cons cell rest inductionHypothesis =>
    simp only [List.cons_append, Chain, inductionHypothesis, and_assoc]

/-- A chain starts with its first cell. -/
theorem chain_next (links : Links α) (first last : α) (cells : List α)
    (chain : Chain links first cells last) : links.next first = firstOr cells last := by
  cases cells with
  | nil => exact chain.1
  | cons cell rest => exact chain.1

/-- A chain depends on the forward links of all its cells but the last, and on the
backward links of all but the first. -/
theorem chain_congr (links other : Links α) (first last : α) (cells : List α)
    (forward : ∀ cell ∈ first :: cells, other.next cell = links.next cell)
    (backward : ∀ cell ∈ cells ++ [last], other.prev cell = links.prev cell)
    (chain : Chain links first cells last) : Chain other first cells last := by
  induction cells generalizing first with
  | nil =>
    refine ⟨?_, ?_⟩
    · rw [forward first List.mem_cons_self]
      exact chain.1
    · rw [backward last List.mem_cons_self]
      exact chain.2
  | cons cell rest inductionHypothesis =>
    obtain ⟨next, prev, following⟩ := chain
    refine ⟨?_, ?_, ?_⟩
    · rw [forward first List.mem_cons_self]
      exact next
    · rw [backward cell List.mem_cons_self]
      exact prev
    · apply inductionHypothesis cell
      · exact fun other member => forward other (List.mem_cons_of_mem _ member)
      · exact fun other member => backward other (List.mem_cons_of_mem _ member)
      · exact following

/-- The links read backward. -/
def Links.flip (links : Links α) : Links α := ⟨links.prev, links.next⟩

/-- A chain read backward goes through the reversed list. -/
theorem chain_flip (links : Links α) (first last : α) (cells : List α)
    (chain : Chain links first cells last) : Chain links.flip last cells.reverse first := by
  induction cells generalizing first with
  | nil => exact ⟨chain.2, chain.1⟩
  | cons cell rest inductionHypothesis =>
    obtain ⟨next, prev, following⟩ := chain
    rw [List.reverse_cons, chain_append]
    exact ⟨inductionHypothesis cell following, prev, next⟩

/-- A ring read backward is a ring of the reversed list. -/
theorem ring_flip (links : Links α) (head : α) (cells : List α) (ring : Ring links head cells) :
    Ring links.flip head cells.reverse := by
  refine ⟨chain_flip links head head cells ring.chain, ?_⟩
  have distinct := List.nodup_cons.mp ring.distinct
  rw [List.nodup_cons, List.mem_reverse, List.nodup_reverse]
  exact distinct

/-- The head is followed by the first cell. -/
theorem ring_next_head (links : Links α) (head : α) (cells : List α)
    (ring : Ring links head cells) : links.next head = firstOr cells head :=
  chain_next links head head cells ring.chain

/-- A cell is followed by the next one, or by the head. -/
theorem ring_next (links : Links α) (head cell : α) (before later : List α)
    (ring : Ring links head (before ++ cell :: later)) : links.next cell = firstOr later head :=
  chain_next links cell head later
    ((chain_append links head head cell before later).mp ring.chain).2

/-- The cell before the last one of a chain is among the others. -/
theorem chain_prev_mem (links : Links α) (first last : α) (cells : List α)
    (chain : Chain links first cells last) : links.prev last ∈ first :: cells := by
  induction cells generalizing first with
  | nil =>
    rw [chain.2]
    exact List.mem_cons_self
  | cons cell rest inductionHypothesis =>
    exact List.mem_cons_of_mem _ (inductionHypothesis cell chain.2.2)

/-- A cell of a ring occurs in it only once. -/
theorem ring_cell_once (links : Links α) (head cell : α) (before later : List α)
    (ring : Ring links head (before ++ cell :: later)) : cell ∉ head :: (before ++ later) := by
  have distinct := ring.distinct
  rw [← List.cons_append, List.perm_middle.nodup_iff] at distinct
  exact (List.nodup_cons.mp distinct).1

/-- The neighbours of a cell of a ring are the head or other cells. -/
theorem ring_neighbours (links : Links α) (head cell : α) (before later : List α)
    (ring : Ring links head (before ++ cell :: later)) :
    links.prev cell ∈ head :: (before ++ later) ∧ links.next cell ∈ head :: (before ++ later) := by
  obtain ⟨first, second⟩ := (chain_append links head head cell before later).mp ring.chain
  constructor
  · exact List.mem_append_left later (chain_prev_mem links head cell before first)
  · rw [chain_next links cell head later second]
    cases later with
    | nil => exact List.mem_cons_self
    | cons following rest =>
      exact List.mem_cons_of_mem _ (List.mem_append_right before List.mem_cons_self)

/-- A chain up to some cell can be continued otherwise from the cell before it, as long
as the other links agree with its own up to there.

Proof: by induction on the chain. The cell from which it continues is among the later
ones at each step, so it is not the first. -/
theorem chain_join (links other : Links α) (first cell last : α) (before later : List α)
    (chain : Chain links first before cell) (distinct : (first :: before).Nodup)
    (forward : ∀ kept ∈ first :: before, kept ≠ links.prev cell →
      other.next kept = links.next kept)
    (backward : ∀ kept ∈ before, other.prev kept = links.prev kept)
    (continued : Chain other (links.prev cell) later last) :
    Chain other first (before ++ later) last := by
  induction before generalizing first with
  | nil =>
    have same : links.prev cell = first := chain.2
    rw [same] at continued
    exact continued
  | cons next rest inductionHypothesis =>
    obtain ⟨linked, back, following⟩ := chain
    have outside := (List.nodup_cons.mp distinct).1
    have inside : links.prev cell ∈ next :: rest := chain_prev_mem links next cell rest following
    have apart : first ≠ links.prev cell := fun same => outside (same ▸ inside)
    refine ⟨?_, ?_, ?_⟩
    · rw [forward first List.mem_cons_self apart]
      exact linked
    · rw [backward next List.mem_cons_self]
      exact back
    · apply inductionHypothesis next following (List.nodup_cons.mp distinct).2
      · exact fun kept member => forward kept (List.mem_cons_of_mem _ member)
      · exact fun kept member => backward kept (List.mem_cons_of_mem _ member)

/-- A ring depends on the links of its own cells. -/
theorem ring_congr (links other : Links α) (head : α) (cells : List α)
    (agree : ∀ cell ∈ head :: cells,
      other.next cell = links.next cell ∧ other.prev cell = links.prev cell)
    (ring : Ring links head cells) : Ring other head cells := by
  refine ⟨?_, ring.distinct⟩
  apply chain_congr links other head head cells _ _ ring.chain
  · exact fun cell member => (agree cell member).1
  · intro cell member
    rcases List.mem_append.mp member with inside | isHead
    · exact (agree cell (List.mem_cons_of_mem _ inside)).2
    · rw [List.mem_singleton.mp isHead]
      exact (agree head List.mem_cons_self).2

section Updates

variable [DecidableEq α]

/-- Put a cell between two others. -/
def Links.link (links : Links α) (cell before later : α) : Links α :=
  ⟨Function.update (Function.update links.next cell later) before cell,
    Function.update (Function.update links.prev later cell) cell before⟩

/-- Join the neighbours of a cell with each other. -/
def Links.unlink (links : Links α) (before later : α) : Links α :=
  ⟨Function.update links.next before later, Function.update links.prev later before⟩

/-- A new cell linked in front of the head is the last of the ring. -/
theorem ring_link_last (links : Links α) (head cell : α) (cells : List α)
    (ring : Ring links head cells) (fresh : cell ∉ head :: cells) :
    Ring (links.link cell (links.prev head) head) head (cells ++ [cell]) := by
  have inside := chain_prev_mem links head head cells ring.chain
  have distinct := List.nodup_cons.mp ring.distinct
  have notHead : head ≠ cell := fun same => fresh (same ▸ List.mem_cons_self)
  have notLast : cell ≠ links.prev head := fun same => fresh (same ▸ inside)
  constructor
  · apply chain_join links _ head head head cells [cell] ring.chain ring.distinct
    · intro kept member other
      have notCell : kept ≠ cell := fun same => fresh (same ▸ member)
      simp only [Links.link]
      rw [Function.update_of_ne other, Function.update_of_ne notCell]
    · intro kept member
      have notCell : kept ≠ cell := fun same => fresh (same ▸ List.mem_cons_of_mem _ member)
      have other : kept ≠ head := fun same => distinct.1 (same ▸ member)
      simp only [Links.link]
      rw [Function.update_of_ne notCell, Function.update_of_ne other]
    · refine ⟨Function.update_self _ _ _, Function.update_self _ _ _, ?_, ?_⟩
      · simp only [Links.link]
        rw [Function.update_of_ne notLast, Function.update_self]
      · simp only [Links.link]
        rw [Function.update_of_ne notHead, Function.update_self]
  · rw [← List.cons_append, List.nodup_append]
    refine ⟨ring.distinct, List.nodup_singleton cell, ?_⟩
    intro kept member other isCell same
    rw [List.mem_singleton.mp isCell] at same
    exact fresh (same ▸ member)

/-- A cell whose neighbours are joined is no longer in the ring. -/
theorem ring_unlink (links : Links α) (head cell : α) (before later : List α)
    (ring : Ring links head (before ++ cell :: later)) :
    Ring (links.unlink (links.prev cell) (links.next cell)) head (before ++ later) := by
  obtain ⟨first, second⟩ := (chain_append links head head cell before later).mp ring.chain
  have sublist : (head :: (before ++ later)).Sublist (head :: (before ++ cell :: later)) :=
    ((List.sublist_cons_self cell later).append_left before).cons_cons head
  have nodup : (head :: (before ++ later)).Nodup := sublist.nodup ring.distinct
  have insideBefore : links.prev cell ∈ head :: before :=
    chain_prev_mem links head cell before first
  have next : links.next cell = firstOr later head := chain_next links cell head later second
  have apart : ∀ kept ∈ later, kept ∉ head :: before := by
    rw [← List.cons_append, List.nodup_append] at nodup
    exact fun kept member other => nodup.2.2 kept other kept member rfl
  refine ⟨?_, nodup⟩
  apply chain_join links _ head cell head before later first
  · exact (List.sublist_append_left (head :: before) later).nodup nodup
  · intro kept _ other
    exact Function.update_of_ne other _ _
  · intro kept member
    have other : kept ≠ links.next cell := by
      rw [next]
      intro same
      cases later with
      | nil =>
        rw [firstOr_nil] at same
        exact (List.nodup_cons.mp nodup).1 (same ▸ List.mem_append_left _ member)
      | cons following rest =>
        rw [firstOr_cons] at same
        exact apart following List.mem_cons_self (same ▸ List.mem_cons_of_mem _ member)
    exact Function.update_of_ne other _ _
  · cases later with
    | nil =>
      rw [next]
      exact ⟨Function.update_self _ _ _, Function.update_self _ _ _⟩
    | cons following rest =>
      rw [next]
      refine ⟨Function.update_self _ _ _, Function.update_self _ _ _, ?_⟩
      apply chain_congr links _ following head rest _ _ second.2.2
      · intro kept member
        have other : kept ≠ links.prev cell := fun same => apart kept member (same ▸ insideBefore)
        exact Function.update_of_ne other _ _
      · intro kept member
        have other : kept ≠ following := by
          rintro rfl
          rcases List.mem_append.mp member with inside | isHead
          · have tail := (List.nodup_append.mp (List.nodup_cons.mp nodup).2).2.1
            exact (List.nodup_cons.mp tail).1 inside
          · rw [List.mem_singleton.mp isHead] at apart
            exact apart head List.mem_cons_self List.mem_cons_self
        exact Function.update_of_ne other _ _

end Updates

end LddExamples.LinkedRings
