import LddExamples.LinkedRings
import LddExamples.ResourceLog
import LddExamples.Runs

/-!
# The linked-list module

`024_linked_list/list.c` over a heap: a list head that is part of the module, and
nodes that are allocated and freed. Every access to a node is checked: one to memory
that is not allocated, or to what `list_del` leaves in a removed node, is a fault, and
the call that makes it has no result. So has a loop that takes more turns than there
are nodes to visit.

The functions of the kernel's list have their documented effects on the links, in
their order. The allocator may fail at any call, and chooses a block in any way that
does not hand out a block twice at a time. What a traversal visits is its result; the
log is left out.
-/

namespace LddExamples.ListModule

open LinkedRings ResourceLog

/-- A pointer to a list head: that of the module, that inside a node, or neither. -/
inductive Pointer where
  | headNode
  | list (node : Nat)
  | poison
deriving DecidableEq

/-- Memory, the nodes that are allocated, and what has been allocated and freed. -/
structure Heap where
  links : Links Pointer
  data : Nat → Int
  live : List Nat
  log : List (Entry Nat)

/-- The pointer may be dereferenced. -/
def Heap.Valid (heap : Heap) : Pointer → Prop
  | .headNode => True
  | .list node => node ∈ heap.live
  | .poison => False

instance (heap : Heap) (pointer : Pointer) : Decidable (heap.Valid pointer) :=
  match pointer with
  | .headNode => inferInstanceAs (Decidable True)
  | .list node => inferInstanceAs (Decidable (node ∈ heap.live))
  | .poison => inferInstanceAs (Decidable False)

/-- The load of `next` from a list head, if it may be dereferenced. -/
def Heap.next (heap : Heap) (pointer : Pointer) : Option Pointer :=
  if heap.Valid pointer then some (heap.links.next pointer) else none

/-- The load of `prev`, likewise. -/
def Heap.prev (heap : Heap) (pointer : Pointer) : Option Pointer :=
  if heap.Valid pointer then some (heap.links.prev pointer) else none

/-- The store to `next` of a list head, if it may be dereferenced. The other links stay as
they are. -/
def Heap.setNext (heap : Heap) (pointer value : Pointer) : Option Heap :=
  if heap.Valid pointer then
    some { heap with links := ⟨Function.update heap.links.next pointer value, heap.links.prev⟩ }
  else none

/-- The store to `prev`, likewise. -/
def Heap.setPrev (heap : Heap) (pointer value : Pointer) : Option Heap :=
  if heap.Valid pointer then
    some { heap with links := ⟨heap.links.next, Function.update heap.links.prev pointer value⟩ }
  else none

/-- The data of the node around a list head. -/
def Heap.entryData (heap : Heap) : Pointer → Option Int
  | .list node => if node ∈ heap.live then some (heap.data node) else none
  | _ => none

/-- `INIT_LIST_HEAD`. -/
def initListHead (heap : Heap) (list : Pointer) : Option Heap := do
  let heap ← heap.setNext list list
  heap.setPrev list list

/-- The new head goes between two that follow one another, by four stores in this order. The
links are not checked first, as they are in a kernel that is built to debug lists. -/
def listAdd (heap : Heap) (new prev next : Pointer) : Option Heap := do
  let heap ← heap.setPrev next new
  let heap ← heap.setNext new next
  let heap ← heap.setPrev new prev
  heap.setNext prev new

/-- The new head goes in front of the given one, which is the end of its list. -/
def listAddTail (heap : Heap) (new head : Pointer) : Option Heap := do
  let last ← heap.prev head
  listAdd heap new last head

/-- The entry's neighbours are joined, and its own links are poisoned. Its memory is left to
the caller. -/
def listDel (heap : Heap) (entry : Pointer) : Option Heap := do
  let prev ← heap.prev entry
  let next ← heap.next entry
  let heap ← heap.setPrev next prev
  let heap ← heap.setNext prev next
  let heap ← heap.setNext entry .poison
  heap.setPrev entry .poison

/-- An allocator chooses a block that is not allocated, in the light of everything
that has happened. -/
structure Allocator where
  block : Heap → Nat
  fresh : ∀ heap, block heap ∉ heap.live

/-- The allocator that takes the block above all allocated ones. -/
def nextBlock : Allocator where
  block heap := heap.live.max?.getD 0 + 1
  fresh _ member := absurd (List.le_max?_getD_of_mem member) (Nat.not_succ_le_self _)

/-- A block is allocated, or the call fails with a null pointer and nothing has changed.
What the block holds is whatever it held before. -/
def kmalloc (allocator : Allocator) (heap : Heap) (fails : Bool) : Option (Heap × Nat) :=
  if fails then none
  else
    let node := allocator.block heap
    some ({ heap with live := node :: heap.live, log := heap.log ++ [.acquire node] }, node)

/-- A block is freed, if it is allocated; freeing anything else is a fault, and so is
freeing a block twice. -/
def kfree (heap : Heap) : Pointer → Option Heap
  | .list node =>
      if node ∈ heap.live then
        some { heap with live := heap.live.erase node, log := heap.log ++ [.release node] }
      else none
  | _ => none

/-- Adding ends without a word where the allocation fails; otherwise the node is filled,
initialised and linked at the end. Its line in the log is left out. -/
def addNode (allocator : Allocator) (heap : Heap) (value : Int) (fails : Bool) : Option Heap :=
  match kmalloc allocator heap fails with
  | none => some heap
  | some (heap, new) => do
      let heap := { heap with data := Function.update heap.data new value }
      let heap ← initListHead heap (.list new)
      listAddTail heap (.list new) .headNode

/-- The loop of a traversal, by the link that it follows. -/
def traverseLinks (link : Heap → Pointer → Option Pointer) (heap : Heap) :
    Nat → Pointer → Option (List Int)
  | 0, _ => none
  | turns + 1, temp =>
      if temp = .headNode then some []
      else do
        let data ← heap.entryData temp
        let following ← link heap temp
        let others ← traverseLinks link heap turns following
        return data :: others

/-- `traverse_list` visits the nodes from the first to the last. The turns that it may take
are those that the allocated nodes allow, and one that meets the head. -/
def traverseList (heap : Heap) : Option (List Int) := do
  let first ← heap.next .headNode
  traverseLinks Heap.next heap (heap.live.length + 1) first

/-- `traverse_list_reverse` visits them from the last to the first. -/
def traverseListReverse (heap : Heap) : Option (List Int) := do
  let first ← heap.prev .headNode
  traverseLinks Heap.prev heap (heap.live.length + 1) first

/-- The loop of `list_for_each_entry_safe` that removes and frees the nodes with the
given data. -/
def sweepLoop (removed : Int → Bool) : Nat → Heap → Pointer → Pointer → Option Heap
  | 0, _, _, _ => none
  | turns + 1, heap, cursor, tmp =>
      if cursor = .headNode then some heap
      else do
        let data ← heap.entryData cursor
        let heap ← if removed data then (do
            let heap ← listDel heap cursor
            kfree heap cursor)
          else some heap
        let following ← heap.next tmp
        sweepLoop removed turns heap tmp following

/-- The loop of `list_for_each_entry_safe`, which reads where it goes on before it treats a
node. -/
def sweep (removed : Int → Bool) (heap : Heap) : Option Heap := do
  let cursor ← heap.next .headNode
  let tmp ← heap.next cursor
  sweepLoop removed (heap.live.length + 1) heap cursor tmp

/-- `remove_node` removes and frees every node with the value, not only the first. -/
def removeNode (heap : Heap) (value : Int) : Option Heap :=
  sweep (fun data => decide (data = value)) heap

/-- `cleanup_list` removes and frees all nodes. -/
def cleanupList (heap : Heap) : Option Heap := sweep (fun _ => true) heap

/-- The module as it is loaded, over any memory. -/
def loaded (memory : Heap) : Heap :=
  { memory with
      links := ⟨Function.update memory.links.next .headNode .headNode,
        Function.update memory.links.prev .headNode .headNode⟩
      live := []
      log := [] }

/-- The functions of the module as calls, in any order. Cleaning up is not among them: it is
executed once, at unloading. -/
inductive Call where
  | addNode (value : Int) (fails : Bool)
  | removeNode (value : Int)
  | traverseList
  | traverseListReverse

/-- One call, and what it has visited. A call that faults has no reply. -/
def step (allocator : Allocator) (heap : Heap) : Call → Heap × Option (List Int)
  | .addNode value fails =>
      match addNode allocator heap value fails with
      | some next => (next, some [])
      | none => (heap, none)
  | .removeNode value =>
      match removeNode heap value with
      | some next => (next, some [])
      | none => (heap, none)
  | .traverseList => (heap, traverseList heap)
  | .traverseListReverse => (heap, traverseListReverse heap)

end LddExamples.ListModule
