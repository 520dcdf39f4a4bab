import LddExamples.KeypadQueue
import LddExamples.LockedSections

/-!
# The keypad queue, one access at a time

`enqueue` and `dequeue` of `002_char_keypad_driver/queue_kernel.c` as the sections under the
spin lock of the queue that they are. Each load and each store of a field is a step, and
the steps of any number of threads come in any order. The queue is then not well formed in
every state; but it answers every call as a bounded list does at once, and it is well
formed whenever the lock is free. The final assignments of `queue_empty`, which come without
the lock, are not among the calls.
-/

namespace LddExamples.QueueSections

open RingBuffers Runs KeypadQueue
open LockedSections hiding step

/-- The functions of the queue that are one section under its lock. -/
inductive KeyCall where
  | enqueue (item : UInt8)
  | dequeue (item : UInt8)

/-- What a section does next, with the values that it has loaded. -/
inductive Locals where
  | enqueueTest (item : UInt8)
  | enqueueSlot (item : UInt8)
  | storeItem (item : UInt8) (slot : Int)
  | loadRear
  | storeRear (rear : Int)
  | countUp
  | storeMore (count : Int)
  | dequeueTest (item : UInt8)
  | dequeueSlot
  | loadItem (slot : Int)
  | loadFront (item : UInt8)
  | storeFront (item : UInt8) (front : Int)
  | countDown (item : UInt8)
  | storeFewer (item : UInt8) (count : Int)

/-- One load or store of a field of the queue. -/
def access (q : Queue) : Locals → Queue × Progress Locals Reply
  | .enqueueTest item =>
      if q.count = queueSize then (q, .ends (.enqueued (-1))) else (q, .goesOn (.enqueueSlot item))
  | .enqueueSlot item => (q, .goesOn (.storeItem item q.rear))
  | .storeItem item slot =>
      ({ q with items := Function.update q.items slot item }, .goesOn .loadRear)
  | .loadRear => (q, .goesOn (.storeRear ((q.rear + 1).tmod queueSize)))
  | .storeRear rear => ({ q with rear := rear }, .goesOn .countUp)
  | .countUp => (q, .goesOn (.storeMore (q.count + 1)))
  | .storeMore count => ({ q with count := count }, .ends (.enqueued 0))
  | .dequeueTest item =>
      if q.count = 0 then (q, .ends (.dequeued (-1) item)) else (q, .goesOn .dequeueSlot)
  | .dequeueSlot => (q, .goesOn (.loadItem q.front))
  | .loadItem slot => (q, .goesOn (.loadFront (q.items slot)))
  | .loadFront item => (q, .goesOn (.storeFront item ((q.front + 1).tmod queueSize)))
  | .storeFront item front => ({ q with front := front }, .goesOn (.countDown item))
  | .countDown item => (q, .goesOn (.storeFewer item (q.count - 1)))
  | .storeFewer item count => ({ q with count := count }, .ends (.dequeued 0 item))

/-- The accesses that a section has left, at most. -/
def accessesLeft : Locals → Nat
  | .enqueueTest _ | .dequeueTest _ => 6
  | .enqueueSlot _ | .dequeueSlot => 5
  | .storeItem _ _ | .loadItem _ => 4
  | .loadRear | .loadFront _ => 3
  | .storeRear _ | .storeFront _ _ => 2
  | .countUp | .countDown _ => 1
  | .storeMore _ | .storeFewer _ _ => 0

/-- Every access that does not end its section leaves fewer. -/
theorem accesses_shrink (q : Queue) (locals : Locals) (next : Queue) (rest : Locals)
    (went : access q locals = (next, .goesOn rest)) : accessesLeft rest < accessesLeft locals := by
  cases locals with
  | enqueueTest | dequeueTest =>
    simp only [access] at went
    split at went
    · simp at went
    · obtain ⟨_, same⟩ := Prod.mk.inj went
      rw [← Progress.goesOn.inj same]
      exact Nat.lt_succ_self _
  | storeMore | storeFewer => simp [access] at went
  | enqueueSlot | storeItem | loadRear | storeRear | countUp | dequeueSlot | loadItem | loadFront
  | storeFront | countDown =>
    obtain ⟨_, same⟩ := Prod.mk.inj went
    rw [← Progress.goesOn.inj same]
    exact Nat.lt_succ_self _

/-- `enqueue` and `dequeue` by the accesses of their sections. -/
def code : Code Queue KeyCall Locals Reply where
  start
    | .enqueue item => .enqueueTest item
    | .dequeue item => .dequeueTest item
  access := access
  left := accessesLeft
  shrinks := accesses_shrink

/-- The call as one of those that are executed at once. -/
def KeyCall.atOnce : KeyCall → Call
  | .enqueue item => .enqueue item
  | .dequeue item => .dequeue item

/-- A section executed whole is the call at once. -/
theorem whole_at_once (q : Queue) (call : KeyCall) :
    code.whole q (code.start call) = step q call.atOnce := by
  cases call with
  | enqueue item =>
    by_cases full : q.count = queueSize
    · rw [whole_ends code q q (code.start (.enqueue item)) (.enqueued (-1)) (if_pos full)]
      simp only [KeyCall.atOnce, step, enqueue, if_pos full]
    · rw [whole_goes_on code q q (code.start (.enqueue item)) (.enqueueSlot item) (if_neg full),
        whole_goes_on code _ _ _ _ rfl,
        whole_goes_on code _ _ _ _ rfl, whole_goes_on code _ _ _ _ rfl,
        whole_goes_on code _ _ _ _ rfl, whole_goes_on code _ _ _ _ rfl,
        whole_ends code _ _ _ _ rfl]
      simp only [KeyCall.atOnce, step, enqueue, if_neg full]
  | dequeue item =>
    by_cases none : q.count = 0
    · rw [whole_ends code q q (code.start (.dequeue item)) (.dequeued (-1) item) (if_pos none)]
      simp only [KeyCall.atOnce, step, dequeue, if_pos none]
    · rw [whole_goes_on code q q (code.start (.dequeue item)) .dequeueSlot (if_neg none),
        whole_goes_on code _ _ _ _ rfl,
        whole_goes_on code _ _ _ _ rfl, whole_goes_on code _ _ _ _ rfl,
        whole_goes_on code _ _ _ _ rfl, whole_goes_on code _ _ _ _ rfl,
        whole_ends code _ _ _ _ rfl]
      simp only [KeyCall.atOnce, step, dequeue, if_neg none]

universe u
variable {θ : Type u}

/-- A thread's call on a bounded list of characters. -/
def fifoCall (queue : BoundedQueue UInt8 64) (entered : θ × KeyCall) :
    BoundedQueue UInt8 64 × (θ × Reply) :=
  let (queue, reply) := fifoStep queue entered.2.atOnce
  (queue, (entered.1, reply))

/-- A section executed whole is answered as on the list, and keeps representing it. -/
theorem whole_refines (q : Queue) (queue : BoundedQueue UInt8 64) (entered : θ × KeyCall)
    (represents : Represents q queue) :
    (serialStep code q entered).2 = (fifoCall queue entered).2 ∧
      Represents (serialStep code q entered).1 (fifoCall queue entered).1 := by
  obtain ⟨reply, next⟩ := step_refines q queue entered.2.atOnce represents
  simp only [serialStep, whole_at_once, fifoCall, reply]
  exact ⟨trivial, next⟩

/-- For every interleaving of the accesses of any threads after `queue_init`: the calls are
answered, and the running one will be, as a list of at most 64 characters answers them in
the order in which they take the lock; whenever the lock is free, the queue is well formed
and holds that list; and every call can still return. -/
theorem interleaved_queue_is_fifo [DecidableEq θ] (memory : Queue)
    (actions : List (Action KeyCall θ)) :
    let final := after (LockedSections.step code) (fresh (queueInit memory)) actions
    let entered := entries code (queueInit memory) actions
    answers code (queueInit memory) actions ++ (settled code final).2 =
        replies fifoCall .empty entered ∧
      (final.holder = none →
        answers code (queueInit memory) actions = replies fifoCall .empty entered ∧
          WellFormed final.shared ∧
          contents final.shared = (after fifoCall .empty entered).values) ∧
      ∀ thread, ∃ more, (after (LockedSections.step code) final more).stage thread = .idle := by
  intro final entered
  obtain ⟨answered, settled⟩ := run_refines code fifoCall Represents whole_refines
    (queueInit memory) .empty (init_well_formed memory) actions
  exact ⟨answered, settled, can_return code final (run_exclusive code _ actions)⟩

end LddExamples.QueueSections
