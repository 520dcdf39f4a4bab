import LddExamples.ListModule

/-!
# The linked list as a list of integers

The links of the module form a ring through exactly the allocated nodes, and the data
along it is the list that the calls describe: adding appends, removing deletes every
occurrence, and the traversals visit the list and its reverse. The loop that removes
while it visits has, at each turn, the nodes that it has kept in front of those that
it has still to visit, and has already read where to go from the one it removes.
-/

namespace LddExamples.ListRefinement

open LinkedRings ResourceLog ListModule Runs

/-- The links form a ring through the nodes, which are those allocated; and what has
been allocated has been freed or is still there. -/
structure Represents (heap : Heap) (nodes : List Nat) : Prop where
  ring : Ring heap.links .headNode (nodes.map .list)
  alive : heap.live.Perm nodes
  balanced : (acquired heap.log).Perm (released heap.log ++ heap.live)

/-- The head and the nodes of the ring may be dereferenced. -/
theorem represents_valid (heap : Heap) (nodes : List Nat) (represents : Represents heap nodes)
    (pointer : Pointer) (member : pointer ∈ Pointer.headNode :: nodes.map .list) :
    heap.Valid pointer := by
  rcases List.mem_cons.mp member with rfl | inside
  · trivial
  · obtain ⟨node, isNode, rfl⟩ := List.mem_map.mp inside
    exact represents.alive.mem_iff.mpr isNode

/-- Changing the links leaves what may be dereferenced. -/
theorem relinked_valid (heap : Heap) (links : Links Pointer) (pointer : Pointer) :
    Heap.Valid { heap with links := links } pointer ↔ heap.Valid pointer := by
  cases pointer <;> rfl

/-- A store to a link that may be dereferenced succeeds, whatever the other links are by
then. -/
theorem set_next_valid (heap : Heap) (links : Links Pointer) (pointer value : Pointer)
    (valid : heap.Valid pointer) :
    Heap.setNext { heap with links := links } pointer value =
      some { heap with links := ⟨Function.update links.next pointer value, links.prev⟩ } :=
  if_pos ((relinked_valid heap links pointer).mpr valid)

/-- So does one to the other link. -/
theorem set_prev_valid (heap : Heap) (links : Links Pointer) (pointer value : Pointer)
    (valid : heap.Valid pointer) :
    Heap.setPrev { heap with links := links } pointer value =
      some { heap with links := ⟨links.next, Function.update links.prev pointer value⟩ } :=
  if_pos ((relinked_valid heap links pointer).mpr valid)

/-- A cell is linked between two others where all three may be dereferenced. -/
theorem list_add_links (heap : Heap) (new prev next : Pointer) (newValid : heap.Valid new)
    (prevValid : heap.Valid prev) (nextValid : heap.Valid next) :
    listAdd heap new prev next = some { heap with links := heap.links.link new prev next } := by
  have first := set_prev_valid heap heap.links next new nextValid
  simp only [listAdd, first, set_next_valid heap _ new next newValid,
    set_prev_valid heap _ new prev newValid, set_next_valid heap _ prev new prevValid,
    Option.bind_eq_bind, Option.bind_some, Links.link]

/-- The links that `list_del` leaves: the neighbours are joined, the entry is poisoned. -/
def poisoned (links : Links Pointer) (entry : Pointer) : Links Pointer :=
  let joined := links.unlink (links.prev entry) (links.next entry)
  ⟨Function.update joined.next entry .poison, Function.update joined.prev entry .poison⟩

/-- An entry is removed where it and its neighbours may be dereferenced. -/
theorem list_del_links (heap : Heap) (entry : Pointer) (entryValid : heap.Valid entry)
    (prevValid : heap.Valid (heap.links.prev entry))
    (nextValid : heap.Valid (heap.links.next entry)) :
    listDel heap entry = some { heap with links := poisoned heap.links entry } := by
  have prev : heap.prev entry = some (heap.links.prev entry) := if_pos entryValid
  have next : heap.next entry = some (heap.links.next entry) := if_pos entryValid
  have first := set_prev_valid heap heap.links (heap.links.next entry) (heap.links.prev entry)
    nextValid
  simp only [listDel, prev, next, first, Option.bind_eq_bind, Option.bind_some,
    set_next_valid heap _ _ _ prevValid, set_next_valid heap _ _ _ entryValid,
    set_prev_valid heap _ _ _ entryValid, poisoned, Links.unlink]

/-- The pointer to the first of the nodes, or to the head behind them. -/
def firstOf (nodes : List Nat) : Pointer := firstOr (nodes.map .list) .headNode

/-- What follows the head, and what follows a node. -/
theorem represents_next_head (heap : Heap) (nodes : List Nat)
    (represents : Represents heap nodes) : heap.next .headNode = some (firstOf nodes) := by
  have next := ring_next_head heap.links .headNode _ represents.ring
  have valid : heap.Valid .headNode := trivial
  rw [Heap.next, if_pos valid, next]
  rfl

/-- A node is followed by the first of the nodes behind it. -/
theorem represents_next (heap : Heap) (before later : List Nat) (node : Nat)
    (represents : Represents heap (before ++ node :: later)) :
    heap.next (.list node) = some (firstOf later) := by
  have ring := represents.ring
  rw [List.map_append, List.map_cons] at ring
  have next := ring_next heap.links .headNode (.list node) (before.map .list) (later.map .list) ring
  have valid : heap.Valid (.list node) := by
    apply represents_valid heap _ represents
    apply List.mem_cons_of_mem
    exact List.mem_map_of_mem (List.mem_append_right before List.mem_cons_self)
  rw [Heap.next, if_pos valid, next]
  rfl

/-- The heap without a node that has been removed from the ring and freed. -/
def withoutNode (heap : Heap) (node : Nat) : Heap :=
  { heap with
      links := poisoned heap.links (.list node)
      live := heap.live.erase node
      log := heap.log ++ [.release node] }

/-- A node of the ring can be removed and freed. -/
theorem represents_remove (heap : Heap) (before later : List Nat) (node : Nat)
    (represents : Represents heap (before ++ node :: later)) :
    (listDel heap (.list node)).bind (fun heap => kfree heap (.list node)) =
      some (withoutNode heap node) := by
  have ring := represents.ring
  rw [List.map_append, List.map_cons] at ring
  have alive : node ∈ heap.live :=
    represents.alive.mem_iff.mpr (List.mem_append_right before List.mem_cons_self)
  have validOf (pointer : Pointer)
      (inside : pointer ∈ Pointer.headNode :: (before.map .list ++ later.map .list)) :
      heap.Valid pointer := by
    apply represents_valid heap _ represents
    rw [List.map_append, List.map_cons]
    exact (((List.sublist_cons_self _ _).append_left _).cons_cons _).subset inside
  obtain ⟨prevInside, nextInside⟩ := ring_neighbours heap.links .headNode (.list node)
    (before.map .list) (later.map .list) ring
  rw [list_del_links heap (.list node) alive (validOf _ prevInside) (validOf _ nextInside),
    Option.bind_some]
  exact if_pos alive

/-- What is left represents the other nodes, in order. -/
theorem represents_removed (heap : Heap) (before later : List Nat) (node : Nat)
    (represents : Represents heap (before ++ node :: later)) :
    Represents (withoutNode heap node) (before ++ later) := by
  have ring := represents.ring
  rw [List.map_append, List.map_cons] at ring
  have member : node ∈ heap.live :=
    represents.alive.mem_iff.mpr (List.mem_append_right before List.mem_cons_self)
  refine ⟨?_, ?_, ?_⟩
  · rw [List.map_append]
    apply ring_congr _ _ _ _ _ (ring_unlink heap.links .headNode (.list node) (before.map .list)
      (later.map .list) ring)
    intro cell inside
    have other : cell ≠ .list node := fun same =>
      ring_cell_once heap.links .headNode (.list node) (before.map .list) (later.map .list) ring
        (same ▸ inside)
    simp only [withoutNode, poisoned, Function.update_of_ne other, and_self]
  · have erased := (represents.alive.trans List.perm_middle).erase node
    rwa [List.erase_cons_head] at erased
  · obtain ⟨acquires, releases⟩ := acquired_append heap.log [.release node]
    have split : (released heap.log ++ heap.live).Perm
        (released heap.log ++ node :: heap.live.erase node) :=
      (List.perm_cons_erase member).append_left _
    simp only [withoutNode, acquires, releases, acquired, released, List.append_nil,
      List.append_assoc, List.singleton_append]
    exact represents.balanced.trans split

/-- The links after `INIT_LIST_HEAD`. -/
def initialised (links : Links Pointer) (list : Pointer) : Links Pointer :=
  ⟨Function.update links.next list list, Function.update links.prev list list⟩

/-- The heap with a node allocated, filled and linked in front of the head. -/
def withNode (heap : Heap) (node : Nat) (value : Int) : Heap :=
  { links := (initialised heap.links (.list node)).link (.list node)
      ((initialised heap.links (.list node)).prev .headNode) .headNode
    data := Function.update heap.data node value
    live := node :: heap.live
    log := heap.log ++ [.acquire node] }

/-- A ring does not depend on the links of a node that is not in it. -/
theorem ring_initialised (heap : Heap) (nodes : List Nat) (represents : Represents heap nodes)
    (node : Nat) (fresh : node ∉ heap.live) :
    Pointer.list node ∉ Pointer.headNode :: nodes.map .list ∧
      Ring (initialised heap.links (.list node)) .headNode (nodes.map .list) := by
  have outside : Pointer.list node ∉ Pointer.headNode :: nodes.map .list := by
    intro member
    exact fresh (represents_valid heap nodes represents (.list node) member)
  refine ⟨outside, ring_congr _ _ _ _ ?_ represents.ring⟩
  intro cell member
  have other : cell ≠ .list node := fun same => outside (same ▸ member)
  simp only [initialised, Function.update_of_ne other, and_self]

/-- Adding allocates a block that is not in use, and links it in front of the head. -/
theorem add_node_links (allocator : Allocator) (heap : Heap) (nodes : List Nat)
    (represents : Represents heap nodes) (value : Int) :
    addNode allocator heap value false = some (withNode heap (allocator.block heap) value) := by
  have fresh := allocator.fresh heap
  generalize block : allocator.block heap = node at fresh ⊢
  obtain ⟨-, ring⟩ := ring_initialised heap nodes represents node fresh
  -- The heap before its links are changed; what was valid still is.
  let filled : Heap :=
    ⟨heap.links, Function.update heap.data node value, node :: heap.live,
      heap.log ++ [.acquire node]⟩
  have nodeValid : filled.Valid (.list node) := List.mem_cons_self
  have headValid : filled.Valid .headNode := trivial
  have lastValid : filled.Valid ((initialised heap.links (.list node)).prev .headNode) := by
    have inside := chain_prev_mem _ _ _ _ ring.chain
    have valid := represents_valid heap nodes represents _ inside
    cases last : (initialised heap.links (.list node)).prev .headNode with
    | headNode => trivial
    | list other =>
      rw [last] at valid
      exact List.mem_cons_of_mem _ valid
    | poison =>
      rw [last] at valid
      exact valid
  have initial : initListHead filled (.list node) =
      some { filled with links := initialised heap.links (.list node) } := by
    have next := set_next_valid filled filled.links (.list node) (.list node) nodeValid
    simp only [initListHead, next, Option.bind_eq_bind, Option.bind_some,
      set_prev_valid filled _ (.list node) (.list node) nodeValid, initialised]
    rfl
  have last : Heap.prev { filled with links := initialised heap.links (.list node) } .headNode =
      some ((initialised heap.links (.list node)).prev .headNode) := if_pos trivial
  have linked := list_add_links { filled with links := initialised heap.links (.list node) }
    (.list node) ((initialised heap.links (.list node)).prev .headNode) .headNode
    ((relinked_valid filled _ _).mpr nodeValid) ((relinked_valid filled _ _).mpr lastValid)
    ((relinked_valid filled _ _).mpr headValid)
  have allocated : kmalloc allocator heap false =
      some ({ heap with live := node :: heap.live, log := heap.log ++ [.acquire node] }, node) := by
    simp only [kmalloc, block, Bool.false_eq_true, if_false]
  simp only [addNode, allocated]
  change (initListHead filled (.list node)).bind
    (fun heap => listAddTail heap (.list node) .headNode) = _
  rw [initial, Option.bind_some, listAddTail, last]
  exact linked

/-- The new node is at the end of the ring, and holds its value. -/
theorem represents_added (heap : Heap) (nodes : List Nat) (represents : Represents heap nodes)
    (node : Nat) (fresh : node ∉ heap.live) (value : Int) :
    Represents (withNode heap node value) (nodes ++ [node]) ∧
      (nodes ++ [node]).map (withNode heap node value).data = nodes.map heap.data ++ [value] := by
  obtain ⟨outside, ring⟩ := ring_initialised heap nodes represents node fresh
  refine ⟨⟨?_, ?_, ?_⟩, ?_⟩
  · rw [List.map_append, List.map_singleton]
    exact ring_link_last _ Pointer.headNode (Pointer.list node) _ ring outside
  · exact (represents.alive.cons node).trans (List.perm_append_singleton node nodes).symm
  · obtain ⟨acquires, releases⟩ := acquired_append heap.log [.acquire node]
    simp only [withNode, acquires, releases, acquired, released, List.append_nil]
    apply (represents.balanced.append_right [node]).trans
    rw [List.append_assoc]
    exact (List.perm_append_singleton node heap.live).append_left _
  · have kept : nodes.map (Function.update heap.data node value) = nodes.map heap.data := by
      apply List.map_congr_left
      intro other member
      have different : other ≠ node := by
        rintro rfl
        exact fresh (represents.alive.mem_iff.mpr member)
      exact Function.update_of_ne different _ _
    simp only [List.map_append, List.map_singleton, withNode, kept, Function.update_self]

/-- Going along a chain of nodes up to the head visits their data. -/
theorem traverse_chain (link : Heap → Pointer → Option Pointer) (heap : Heap)
    (links : Links Pointer) (nodes : List Nat) (first : Pointer)
    (chain : Chain links first (nodes.map .list) .headNode)
    (follows : ∀ node ∈ nodes, link heap (.list node) = some (links.next (.list node)))
    (alive : ∀ node ∈ nodes, node ∈ heap.live) (turns : Nat) (enough : nodes.length < turns) :
    traverseLinks link heap turns (links.next first) = some (nodes.map heap.data) := by
  induction nodes generalizing first turns with
  | nil =>
    obtain ⟨turns, rfl⟩ := Nat.exists_eq_succ_of_ne_zero (Nat.ne_zero_of_lt enough)
    exact if_pos chain.1
  | cons node rest inductionHypothesis =>
    obtain ⟨turns, rfl⟩ := Nat.exists_eq_succ_of_ne_zero (Nat.ne_zero_of_lt enough)
    obtain ⟨next, -, following⟩ := chain
    have data : heap.entryData (.list node) = some (heap.data node) :=
      if_pos (alive node List.mem_cons_self)
    have others := inductionHypothesis (.list node) following
      (fun other member => follows other (List.mem_cons_of_mem _ member))
      (fun other member => alive other (List.mem_cons_of_mem _ member)) turns
      (Nat.lt_of_succ_lt_succ enough)
    rw [next, traverseLinks, if_neg (by simp), data, follows node List.mem_cons_self]
    simp only [Option.bind_eq_bind, Option.bind_some, others, Option.pure_def, List.map_cons]

/-- Both traversals visit the data of the nodes, one from each end. -/
theorem represents_traversed (heap : Heap) (nodes : List Nat)
    (represents : Represents heap nodes) :
    traverseList heap = some (nodes.map heap.data) ∧
      traverseListReverse heap = some (nodes.map heap.data).reverse := by
  have headValid : heap.Valid .headNode := trivial
  have alive : ∀ node ∈ nodes, node ∈ heap.live :=
    fun node member => represents.alive.mem_iff.mpr member
  have enough : nodes.length < heap.live.length + 1 := by
    rw [represents.alive.length_eq]
    exact Nat.lt_succ_self _
  constructor
  · have first : heap.next .headNode = some (heap.links.next .headNode) := if_pos headValid
    rw [traverseList, first]
    exact traverse_chain Heap.next heap heap.links nodes .headNode represents.ring.chain
      (fun node member => if_pos (alive node member)) alive _ enough
  · have first : heap.prev .headNode = some (heap.links.prev .headNode) := if_pos headValid
    have backward := (ring_flip heap.links .headNode _ represents.ring).chain
    rw [← List.map_reverse] at backward
    rw [traverseListReverse, first, ← List.map_reverse]
    apply traverse_chain Heap.prev heap heap.links.flip nodes.reverse .headNode backward
    · exact fun node member => if_pos (alive node (List.mem_reverse.mp member))
    · exact fun node member => alive node (List.mem_reverse.mp member)
    · rw [List.length_reverse]
      exact enough

/-- The loop that removes while it visits, with the nodes that it has kept in front of
those that it has still to visit.

Proof: by induction on the nodes to visit. What follows the next of them is read after
the removal, from a node that is still in the ring. -/
theorem sweep_loop_removes (removed : Int → Bool) (heap : Heap) (kept rest : List Nat)
    (represents : Represents heap (kept ++ rest)) (tmp : Pointer)
    (ahead : ∀ node later, rest = node :: later → tmp = firstOf later) (turns : Nat)
    (enough : rest.length < turns) :
    ∃ next, sweepLoop removed turns heap (firstOf rest) tmp = some next ∧
      Represents next (kept ++ rest.filter (fun node => !removed (heap.data node))) ∧
      next.data = heap.data := by
  induction rest generalizing heap kept tmp turns with
  | nil =>
    obtain ⟨turns, rfl⟩ := Nat.exists_eq_succ_of_ne_zero (Nat.ne_zero_of_lt enough)
    exact ⟨heap, if_pos rfl, represents, rfl⟩
  | cons node later inductionHypothesis =>
    obtain ⟨turns, rfl⟩ := Nat.exists_eq_succ_of_ne_zero (Nat.ne_zero_of_lt enough)
    have next := ahead node later rfl
    subst next
    have alive : node ∈ heap.live :=
      represents.alive.mem_iff.mpr (List.mem_append_right kept List.mem_cons_self)
    have data : heap.entryData (.list node) = some (heap.data node) := if_pos alive
    -- After the removal or without it, the loop goes on behind the nodes kept so far.
    have goesOn (left : Heap) (keptNow : List Nat)
        (leftRepresents : Represents left (keptNow ++ later))
        (sameData : left.data = heap.data) :
        ∃ final, (left.next (firstOf later)).bind (sweepLoop removed turns left (firstOf later)) =
            some final ∧
          Represents final (keptNow ++ later.filter (fun node => !removed (heap.data node))) ∧
          final.data = heap.data := by
      obtain ⟨following, read, behind⟩ : ∃ following, left.next (firstOf later) = some following ∧
          ∀ other more, later = other :: more → following = firstOf more := by
        cases later with
        | nil => exact ⟨_, if_pos trivial, fun other more impossible => by simp at impossible⟩
        | cons other more =>
          refine ⟨_, represents_next left keptNow more other leftRepresents, ?_⟩
          rintro _ _ same
          rw [(List.cons.inj same).2]
      obtain ⟨final, ends, finalRepresents, finalData⟩ := inductionHypothesis left keptNow
        leftRepresents following behind turns (Nat.lt_of_succ_lt_succ enough)
      rw [sameData] at finalRepresents finalData
      exact ⟨final, by rw [read]; exact ends, finalRepresents, finalData⟩
    have cursor : firstOf (node :: later) = .list node := rfl
    rw [cursor, sweepLoop, if_neg (by simp), data]
    by_cases gone : removed (heap.data node) = true
    · obtain ⟨final, ends, finalRepresents, finalData⟩ := goesOn (withoutNode heap node) kept
        (represents_removed heap kept later node represents) rfl
      have body := represents_remove heap kept later node represents
      refine ⟨final, ?_, ?_, finalData⟩
      · simp only [Option.bind_eq_bind, Option.bind_some, gone, if_true, body]
        exact ends
      · rw [List.filter_cons_of_neg (by simp [gone])]
        exact finalRepresents
    · have stays := represents
      rw [List.append_cons] at stays
      obtain ⟨final, ends, finalRepresents, finalData⟩ := goesOn heap (kept ++ [node]) stays rfl
      refine ⟨final, ?_, ?_, finalData⟩
      · simp only [Option.bind_eq_bind, Option.bind_some, if_neg gone]
        exact ends
      · rw [List.filter_cons_of_pos (by simp [gone]), List.append_cons]
        exact finalRepresents

/-- Sweeping removes and frees the nodes with the given data, and no others. -/
theorem sweep_removes (removed : Int → Bool) (heap : Heap) (nodes : List Nat)
    (represents : Represents heap nodes) :
    ∃ next, sweep removed heap = some next ∧
      Represents next (nodes.filter (fun node => !removed (heap.data node))) ∧
      next.data = heap.data := by
  have first := represents_next_head heap nodes represents
  obtain ⟨tmp, read, ahead⟩ : ∃ tmp, heap.next (firstOf nodes) = some tmp ∧
      ∀ node later, nodes = node :: later → tmp = firstOf later := by
    cases nodes with
    | nil => exact ⟨_, first, fun node later impossible => by simp at impossible⟩
    | cons node later =>
      refine ⟨_, represents_next heap [] later node represents, ?_⟩
      rintro _ _ same
      rw [(List.cons.inj same).2]
  have enough : nodes.length < heap.live.length + 1 := by
    rw [represents.alive.length_eq]
    exact Nat.lt_succ_self _
  obtain ⟨next, ends, nextRepresents, data⟩ :=
    sweep_loop_removes removed heap [] nodes represents tmp ahead _ enough
  refine ⟨next, ?_, nextRepresents, data⟩
  simp only [sweep, first, read, Option.bind_eq_bind, Option.bind_some]
  exact ends

/-- The data that a sweep leaves is the data that it does not remove. -/
theorem filtered_data (data : Nat → Int) (removed : Int → Bool) (nodes : List Nat) :
    (nodes.filter (fun node => !removed (data node))).map data =
      (nodes.map data).filter (fun value => !removed value) := by
  rw [List.filter_map]
  rfl

/-- The calls on a list of integers. -/
def listStep (values : List Int) : Call → List Int × Option (List Int)
  | .addNode value fails => (if fails then values else values ++ [value], some [])
  | .removeNode value => (values.filter (fun other => decide (other ≠ value)), some [])
  | .traverseList => (values, some values)
  | .traverseListReverse => (values, some values.reverse)

/-- The ring of the heap holds the listed values. -/
def Refines (heap : Heap) (values : List Int) : Prop :=
  ∃ nodes, Represents heap nodes ∧ nodes.map heap.data = values

/-- The loaded module holds the empty list. -/
theorem loaded_refines (memory : Heap) : Refines (loaded memory) [] := by
  refine ⟨[], ⟨⟨⟨?_, ?_⟩, List.nodup_singleton _⟩, List.Perm.refl _, List.Perm.refl _⟩, rfl⟩
  · exact Function.update_self Pointer.headNode Pointer.headNode memory.links.next
  · exact Function.update_self Pointer.headNode Pointer.headNode memory.links.prev

/-- Each call does to the heap, and visits, what it does to and visits in the list. -/
theorem step_refines (allocator : Allocator) (heap : Heap) (values : List Int) (call : Call)
    (refines : Refines heap values) :
    (step allocator heap call).2 = (listStep values call).2 ∧
      Refines (step allocator heap call).1 (listStep values call).1 := by
  obtain ⟨nodes, represents, rfl⟩ := refines
  cases call with
  | addNode value fails =>
    cases fails with
    | true => exact ⟨rfl, nodes, represents, rfl⟩
    | false =>
      have added := add_node_links allocator heap nodes represents value
      simp only [step, added]
      exact ⟨rfl, _, represents_added heap nodes represents _ (allocator.fresh heap) value⟩
  | removeNode value =>
    obtain ⟨next, swept, nextRepresents, data⟩ :=
      sweep_removes (fun data => decide (data = value)) heap nodes represents
    have removes : removeNode heap value = some next := swept
    simp only [step, removes]
    refine ⟨rfl, _, nextRepresents, ?_⟩
    rw [data, filtered_data heap.data (fun data => decide (data = value))]
    simp only [listStep, decide_not]
  | traverseList =>
    exact ⟨(represents_traversed heap nodes represents).1, nodes, represents, rfl⟩
  | traverseListReverse =>
    exact ⟨(represents_traversed heap nodes represents).2, nodes, represents, rfl⟩

/-- Cleaning up frees every node, and leaves the head linked to itself. -/
theorem cleanup_empties (heap : Heap) (values : List Int) (refines : Refines heap values) :
    ∃ final, cleanupList heap = some final ∧ Ring final.links .headNode [] ∧ final.live = [] ∧
      (acquired final.log).Perm (released final.log) := by
  obtain ⟨nodes, represents, -⟩ := refines
  obtain ⟨final, ends, emptied, -⟩ := sweep_removes (fun _ => true) heap nodes represents
  have none : nodes.filter (fun node => !(fun _ => true) (heap.data node)) = [] := by simp
  rw [none] at emptied
  have free : final.live = [] := emptied.alive.eq_nil
  have balanced := emptied.balanced
  rw [free, List.append_nil] at balanced
  exact ⟨final, ends, emptied.ring, free, balanced⟩

/-- For every list of calls: the links form a ring through exactly the allocated
nodes, which hold the list that the calls make; no call faults, and the traversals
visit that list and its reverse; and cleaning up then leaves an empty ring, no
allocated node, and every allocation freed once. -/
theorem list_module_refines (allocator : Allocator) (memory : Heap) (calls : List Call) :
    (∃ nodes, Ring (after (step allocator) (loaded memory) calls).links .headNode
          (nodes.map .list) ∧
        (after (step allocator) (loaded memory) calls).live.Perm nodes ∧
        nodes.map (after (step allocator) (loaded memory) calls).data =
          after listStep [] calls) ∧
      replies (step allocator) (loaded memory) calls = replies listStep [] calls ∧
      ∃ final, cleanupList (after (step allocator) (loaded memory) calls) = some final ∧
        Ring final.links .headNode [] ∧ final.live = [] ∧
        (acquired final.log).Perm (released final.log) := by
  obtain ⟨same, refines⟩ := replies_refine (step allocator) listStep (fun _ => True) Refines
    (fun heap values call related _ => step_refines allocator heap values call related)
    (loaded memory) [] (loaded_refines memory) calls (fun _ _ => trivial)
  obtain ⟨nodes, represents, values⟩ := id refines
  exact ⟨⟨nodes, represents.ring, represents.alive, values⟩, same, cleanup_empties _ _ refines⟩

/-- Memory before the module is loaded. -/
def blank : Heap := ⟨⟨fun _ => .poison, fun _ => .poison⟩, fun _ => 0, [], []⟩

/-- Three values are added, and every seven is removed; a fourth finds no memory. -/
def oneLeft : List Call :=
  [.addNode 7 false, .addNode 8 false, .addNode 7 false, .removeNode 7, .addNode 9 true,
    .traverseListReverse]

/-- Over an allocator that takes the next block, one value is left to visit, and cleaning up
frees its node too. -/
theorem one_value_left :
    replies (step nextBlock) (loaded blank) oneLeft =
        [some [], some [], some [], some [], some [], some [8]] ∧
      ∃ final, cleanupList (after (step nextBlock) (loaded blank) oneLeft) = some final ∧
        final.live = [] ∧ (acquired final.log).Perm (released final.log) := by
  obtain ⟨-, replied, final, ends, -, free, balanced⟩ :=
    list_module_refines nextBlock blank oneLeft
  exact ⟨replied.trans (by decide), final, ends, free, balanced⟩

end LddExamples.ListRefinement
