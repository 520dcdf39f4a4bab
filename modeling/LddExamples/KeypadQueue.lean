import LddExamples.RingBuffers
import LddExamples.Runs

/-!
# The queue of the keypad driver

`002_char_keypad_driver/queue_kernel.c`: a ring of 64 characters with the indices of
its oldest character and of the slot behind its latest, and their number. Indices
and counts are C ints that never come near the bounds of the type; `%` on them is
the remainder of a truncated division. A function that takes the lock is one step.

`queue_empty` removes characters until none is left. Its loop runs here on a bound,
one turn for each character and one that finds none; a call that does not return
within it has no reply. The local into which it removes them is never read.
-/

namespace LddExamples.KeypadQueue

open RingBuffers Runs

/-- `QUEUE_SIZE`, the slots of the ring. -/
abbrev queueSize : Nat := 64

/-- The slots, the index of the oldest character, that of the slot for the next one, and the
number of characters. The lock has no state of its own here. -/
structure Queue where
  items : Int → UInt8
  front : Int
  rear : Int
  count : Int

/-- A queue over cleared memory. -/
def blank : Queue := ⟨fun _ => 0, 0, 0, 0⟩

/-- `queue_init` resets the indices and the count; the slots keep what memory held. -/
def queueInit (q : Queue) : Queue := { q with front := 0, rear := 0, count := 0 }

/-- A character enters at the rear, or the queue is full and the status is -1. -/
def enqueue (q : Queue) (item : UInt8) : Queue × Int :=
  if q.count = queueSize then (q, -1)
  else
    ({ q with
        items := Function.update q.items q.rear item
        rear := (q.rear + 1).tmod queueSize
        count := q.count + 1 }, 0)

/-- The queue, the return value, and what the caller's character then holds. -/
def dequeue (q : Queue) (item : UInt8) : Queue × Int × UInt8 :=
  if q.count = 0 then (q, -1, item)
  else
    ({ q with
        front := (q.front + 1).tmod queueSize
        count := q.count - 1 }, 0, q.items q.front)

/-- The loop of `queue_empty`, if it ends within this many turns. -/
def drain : Nat → Queue → UInt8 → Option Queue
  | 0, _, _ => none
  | turns + 1, q, item =>
      let (q, ret, item) := dequeue q item
      if ret = 0 then drain turns q item else some q

/-- `queue_empty` as one call, if its loop ends: nothing else runs between the loop and the
three assignments behind it. -/
def queueEmpty (q : Queue) (item : UInt8) : Option Queue :=
  (drain (q.count.toNat + 1) q item).map queueInit

/-- The functions of the queue as calls. The character of a removal is what the caller's
local held before. -/
inductive Call where
  | enqueue (item : UInt8)
  | dequeue (item : UInt8)
  | queueEmpty (item : UInt8)

/-- What a call returns, if it does. -/
inductive Reply where
  | enqueued (ret : Int)
  | dequeued (ret : Int) (item : UInt8)
  | emptied
  | running
deriving DecidableEq

/-- One call. A `queue_empty` that does not return leaves the queue as it was, and says that
it is running. -/
def step (q : Queue) : Call → Queue × Reply
  | .enqueue item =>
      let (q, ret) := enqueue q item
      (q, .enqueued ret)
  | .dequeue item =>
      let (q, ret, item) := dequeue q item
      (q, .dequeued ret item)
  | .queueEmpty item =>
      match queueEmpty q item with
      | some q => (q, .emptied)
      | none => (q, .running)

/-- The indices lie inside the array, the count between none and all of its slots,
and the latest character right before the rear. -/
structure WellFormed (q : Queue) : Prop where
  frontInside : 0 ≤ q.front ∧ q.front < 64
  rearInside : 0 ≤ q.rear ∧ q.rear < 64
  countInside : 0 ≤ q.count ∧ q.count ≤ 64
  rearBehind : q.rear = (q.front + q.count) % 64

/-- The characters that a queue holds, oldest first. -/
def contents (q : Queue) : List UInt8 := held q.items queueSize q.front q.count.toNat

/-- The truncated remainder of an index that has moved on. -/
theorem tmod_next (index : Int) (inside : 0 ≤ index) :
    (index + 1).tmod queueSize = (index + 1) % 64 :=
  Int.tmod_eq_emod_of_nonneg (by omega)

/-- As many characters are held as the queue counts. -/
theorem contents_length (q : Queue) : (contents q).length = q.count.toNat :=
  held_length _ _ _ _

/-- An initialised queue holds nothing. -/
theorem init_well_formed (q : Queue) : WellFormed (queueInit q) ∧ contents (queueInit q) = [] := by
  have start : (0 : Int) ≤ 0 ∧ (0 : Int) < 64 := by decide
  exact ⟨⟨start, start, ⟨start.1, Int.le_of_lt start.2⟩, rfl⟩, rfl⟩

/-- A full queue takes no character and is left as it is. -/
theorem enqueue_full (q : Queue) (item : UInt8) (full : q.count = 64) :
    enqueue q item = (q, -1) := if_pos full

/-- With room, a character is appended. -/
theorem enqueue_room (q : Queue) (item : UInt8) (wellFormed : WellFormed q)
    (room : q.count ≠ 64) :
    ∃ next, enqueue q item = (next, 0) ∧ WellFormed next ∧
      contents next = contents q ++ [item] ∧ next.count = q.count + 1 := by
  obtain ⟨front, rear, count, behind⟩ := wellFormed
  have moved := tmod_next q.rear rear.1
  refine ⟨_, if_neg room, ⟨front, ?_, ?_, ?_⟩, ?_, rfl⟩
  · simp only [moved]
    omega
  · simp only
    omega
  · simp only [moved]
    omega
  · have number : (q.count.toNat : Int) = q.count := Int.toNat_of_nonneg count.1
    have next : (q.count + 1).toNat = q.count.toNat + 1 := by omega
    have slot : q.rear = (q.front + (q.count.toNat : Int)) % (queueSize : Nat) := by
      rw [number]
      exact behind
    simp only [contents, next]
    rw [slot]
    exact held_insert q.items queueSize q.front q.count.toNat item (by simp only [queueSize]; omega)

/-- An empty queue yields nothing, and leaves the caller's character. -/
theorem dequeue_empty (q : Queue) (item : UInt8) (none : q.count = 0) :
    dequeue q item = (q, -1, item) := if_pos none

/-- The oldest character leaves. -/
theorem dequeue_oldest (q : Queue) (item : UInt8) (wellFormed : WellFormed q)
    (some : q.count ≠ 0) :
    ∃ next oldest, dequeue q item = (next, 0, oldest) ∧ WellFormed next ∧
      contents q = oldest :: contents next ∧ next.count = q.count - 1 := by
  obtain ⟨front, rear, count, behind⟩ := wellFormed
  have moved := tmod_next q.front front.1
  refine ⟨_, _, if_neg some, ⟨?_, rear, ?_, ?_⟩, ?_, rfl⟩
  · simp only [moved]
    omega
  · simp only
    omega
  · simp only [moved]
    omega
  · have number : q.count.toNat = (q.count - 1).toNat + 1 := by omega
    simp only [contents, number, moved]
    exact held_remove q.items queueSize q.front (q.count - 1).toNat front.1 front.2

/-- The loop of `queue_empty` ends with nothing left, within one turn for each
character and one more. -/
theorem drain_ends (turns : Nat) (q : Queue) (item : UInt8) (wellFormed : WellFormed q)
    (enough : q.count.toNat < turns) :
    ∃ next, drain turns q item = some next ∧ next.count = 0 := by
  induction turns generalizing q item with
  | zero => exact absurd enough (Nat.not_lt_zero _)
  | succ turns inductionHypothesis =>
    rw [drain]
    by_cases none : q.count = 0
    · rw [dequeue_empty q item none]
      exact ⟨q, rfl, none⟩
    · obtain ⟨next, oldest, removed, nextFormed, _, fewer⟩ :=
        dequeue_oldest q item wellFormed none
      have nonnegative := wellFormed.countInside.1
      rw [removed]
      exact inductionHypothesis next oldest nextFormed (by omega)

/-- `queue_empty` returns, and leaves an empty queue. -/
theorem queue_empty_ends (q : Queue) (item : UInt8) (wellFormed : WellFormed q) :
    ∃ next, queueEmpty q item = some next ∧ WellFormed next ∧ contents next = [] := by
  obtain ⟨drained, ends, _⟩ := drain_ends (q.count.toNat + 1) q item wellFormed
    (Nat.lt_succ_self _)
  refine ⟨queueInit drained, ?_, init_well_formed drained⟩
  rw [queueEmpty, ends, Option.map_some]

/-- The calls on a bounded list of characters. -/
def fifoStep (queue : BoundedQueue UInt8 64) : Call → BoundedQueue UInt8 64 × Reply
  | .enqueue item =>
      match queue.insert item with
      | some queue => (queue, .enqueued 0)
      | none => (queue, .enqueued (-1))
  | .dequeue item =>
      match queue.remove with
      | some (oldest, queue) => (queue, .dequeued 0 oldest)
      | none => (queue, .dequeued (-1) item)
  | .queueEmpty _ => (.empty, .emptied)

/-- A well-formed ring that holds the values of a bounded list. -/
def Represents (q : Queue) (queue : BoundedQueue UInt8 64) : Prop :=
  WellFormed q ∧ contents q = queue.values

/-- Every call is answered as on the list, and leaves a ring that represents it. -/
theorem step_refines (q : Queue) (queue : BoundedQueue UInt8 64) (call : Call)
    (represents : Represents q queue) :
    (step q call).2 = (fifoStep queue call).2 ∧
      Represents (step q call).1 (fifoStep queue call).1 := by
  obtain ⟨wellFormed, values⟩ := represents
  have count := wellFormed.countInside
  have length : queue.values.length = q.count.toNat := by rw [← values, contents_length]
  cases call with
  | enqueue item =>
    by_cases full : q.count = 64
    · have refused := queue.insert_full item (by omega)
      simp only [step, fifoStep, enqueue_full q item full, refused]
      exact ⟨trivial, wellFormed, values⟩
    · obtain ⟨next, stored, nextFormed, appended, _⟩ := enqueue_room q item wellFormed full
      obtain ⟨longer, inserted, longerValues⟩ := queue.insert_room item (by omega)
      simp only [step, fifoStep, stored, inserted]
      exact ⟨trivial, nextFormed, by rw [appended, longerValues, values]⟩
  | dequeue item =>
    by_cases none : q.count = 0
    · have empty : queue.values = [] := List.length_eq_zero_iff.mp (by omega)
      simp only [step, fifoStep, dequeue_empty q item none, queue.remove_empty empty]
      exact ⟨trivial, wellFormed, values⟩
    · obtain ⟨next, oldest, removed, nextFormed, front, _⟩ :=
        dequeue_oldest q item wellFormed none
      obtain ⟨shorter, left, shorterValues⟩ :=
        queue.remove_oldest oldest (contents next) (values.symm.trans front)
      simp only [step, fifoStep, removed, left]
      exact ⟨trivial, nextFormed, shorterValues.symm⟩
  | queueEmpty item =>
    obtain ⟨next, emptied, nextFormed, nothing⟩ := queue_empty_ends q item wellFormed
    simp only [step, fifoStep, emptied]
    exact ⟨trivial, nextFormed, nothing⟩

/-- For every list of calls after `queue_init`, the queue is well formed, every call
has returned what it returns on a list of at most 64 characters, and the queue holds
that list. -/
theorem queue_is_bounded_fifo (memory : Queue) (calls : List Call) :
    WellFormed (after step (queueInit memory) calls) ∧
      replies step (queueInit memory) calls = replies fifoStep .empty calls ∧
      contents (after step (queueInit memory) calls) = (after fifoStep .empty calls).values := by
  obtain ⟨same, wellFormed, values⟩ := replies_refine step fifoStep (fun _ => True) Represents
    (fun q queue call represents _ => step_refines q queue call represents) (queueInit memory)
    .empty (init_well_formed memory) calls (fun _ _ => trivial)
  exact ⟨wellFormed, same, values⟩

end LddExamples.KeypadQueue
