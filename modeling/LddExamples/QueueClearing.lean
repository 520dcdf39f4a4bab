import LddExamples.KeypadQueue
import Mathlib.Data.List.Count

/-!
# Clearing the keypad queue while keys come and go

Any number of processes call `enqueue`, `dequeue` and `queue_empty` on one queue.
The bodies under the lock are single steps. After its loop, `queue_empty` sets the
count, the rear and the front to zero without the lock, in three steps between which
any other process may run.

A character that enters after the count is zero and before the rear is loses its
place when the rear is moved, and one that leaves before the front is zero takes the
front with it. Runs without such steps keep the queue consistent; what a process
clears in them is then empty or thrown away as a whole.
-/

namespace LddExamples.QueueClearing

open RingBuffers Runs KeypadQueue

/-- How far a process has come in `queue_empty`: removing characters, or about to
make one of the three assignments. -/
inductive Progress where
  | outside
  | draining
  | clearCount
  | clearRear
  | clearFront
deriving DecidableEq

/-- The queue, and how far each process is in `queue_empty`. -/
structure System where
  queue : Queue
  progress : Nat → Progress

/-- The steps of the processes. An `advance` is the next step of the process in
`queue_empty`; its character is what the local of the loop then holds. -/
inductive Action where
  | enqueue (item : UInt8)
  | dequeue (item : UInt8)
  | queueEmpty (process : Nat)
  | advance (process : Nat) (item : UInt8)

/-- One step. The reply of an assignment says that the clearing is still running, and the
last one that it is done. -/
def step (system : System) : Action → System × Reply
  | .enqueue item =>
      let (queue, ret) := enqueue system.queue item
      ({ system with queue := queue }, .enqueued ret)
  | .dequeue item =>
      let (queue, ret, item) := dequeue system.queue item
      ({ system with queue := queue }, .dequeued ret item)
  | .queueEmpty process =>
      match system.progress process with
      | .outside =>
          ({ system with progress := Function.update system.progress process .draining }, .running)
      | _ => (system, .running)
  | .advance process item =>
      match system.progress process with
      | .outside => (system, .running)
      | .draining =>
          let (queue, ret, item) := dequeue system.queue item
          if ret = 0 then ({ system with queue := queue }, .dequeued ret item)
          else
            (⟨queue, Function.update system.progress process .clearCount⟩, .dequeued ret item)
      | .clearCount =>
          (⟨{ system.queue with count := 0 },
            Function.update system.progress process .clearRear⟩, .running)
      | .clearRear =>
          (⟨{ system.queue with rear := 0 },
            Function.update system.progress process .clearFront⟩, .running)
      | .clearFront =>
          (⟨{ system.queue with front := 0 },
            Function.update system.progress process .outside⟩, .emptied)

/-- The initialised queue, with no process in `queue_empty`. -/
def start (memory : Queue) : System := ⟨queueInit memory, fun _ => .outside⟩

/-- Some process has set the count, and not yet the rear. -/
def RearPending (system : System) : Prop :=
  ∃ process, system.progress process = .clearRear

/-- Some process is between the three assignments: it has set the count, and not yet
the front. -/
def Clearing (system : System) : Prop :=
  ∃ process, system.progress process = .clearRear ∨ system.progress process = .clearFront

/-- The relation between the indices and the count. -/
def Consistent (q : Queue) : Prop :=
  q.rear = (q.front + q.count) % 64 ∧ 0 ≤ q.count ∧ q.count ≤ 64

/-- The character that a successful `enqueue` has stored. -/
def storedBy (event : Event System Action) : Option UInt8 :=
  match event.call with
  | .enqueue item => if event.reply step = .enqueued 0 then some item else none
  | _ => none

/-- The character that a successful `dequeue` has yielded, to its caller or to the
loop of a `queue_empty`. -/
def takenBy (event : Event System Action) : Option UInt8 :=
  match event.reply step with
  | .dequeued ret item => if ret = 0 then some item else none
  | _ => none

/-- The characters stored in a history, in order. -/
def stored (history : List (Event System Action)) : List UInt8 := history.filterMap storedBy

/-- The characters taken in a history, in order. -/
def taken (history : List (Event System Action)) : List UInt8 := history.filterMap takenBy

/-- A successful `dequeue` yields a character that has been stored more often than
it has been taken. -/
def TakesStored (history : List (Event System Action)) (event : Event System Action) : Prop :=
  ∀ item, takenBy event = some item → (taken history).count item < (stored history).count item

/-- No `enqueue` finds room while some process has the rear still to set, and no
`dequeue` finds a character while one has the front still to set. -/
def Orderly (event : Event System Action) : Prop :=
  match event.call with
  | .enqueue _ => event.before.queue.count = 64 ∨ ¬ RearPending event.before
  | .dequeue _ => event.before.queue.count = 0 ∨ ¬ Clearing event.before
  | .queueEmpty _ => True
  | .advance process _ =>
      event.before.progress process = .draining →
        event.before.queue.count = 0 ∨ ¬ Clearing event.before

/-- The slot of the oldest character once the assignments under way are made. -/
def FirstSlot (system : System) (first : Int) : Prop :=
  Clearing system ∧ first = 0 ∨ ¬ Clearing system ∧ first = system.queue.front

/-- What orderly runs keep: the ranges of the fields, an empty queue while a rear is
to be set, otherwise the rear behind the characters from the first slot on, and those
among the characters stored and not taken. -/
structure Ordered (history : List (Event System Action)) (system : System) : Prop where
  frontInside : 0 ≤ system.queue.front ∧ system.queue.front < 64
  rearInside : 0 ≤ system.queue.rear ∧ system.queue.rear < 64
  countInside : 0 ≤ system.queue.count ∧ system.queue.count ≤ 64
  cleared : RearPending system → system.queue.count = 0
  placed : ¬ RearPending system → ∀ first, FirstSlot system first →
    system.queue.rear = (first + system.queue.count) % 64
  owned : ∀ first, FirstSlot system first → ∀ item,
    (taken history).count item +
      (held system.queue.items queueSize first system.queue.count.toNat).count item ≤
        (stored history).count item

/-- Some slot is the first, and it is one of the array. -/
theorem first_slot_exists (system : System)
    (inside : 0 ≤ system.queue.front ∧ system.queue.front < 64) :
    ∃ first, FirstSlot system first ∧ 0 ≤ first ∧ first < 64 := by
  by_cases clearing : Clearing system
  · exact ⟨0, Or.inl ⟨clearing, rfl⟩, by decide, by decide⟩
  · exact ⟨system.queue.front, Or.inr ⟨clearing, rfl⟩, inside⟩

/-- A process that moves from one stage to another leaves a property of some process
as it was when the two stages agree on it. -/
theorem exists_update_congr (progress : Nat → Progress) (Stage : Progress → Prop) (process : Nat)
    (next : Progress) (same : Stage next ↔ Stage (progress process)) :
    (∃ other, Stage (Function.update progress process next other)) ↔
      ∃ other, Stage (progress other) := by
  have alike (other : Nat) :
      Stage (Function.update progress process next other) ↔ Stage (progress other) := by
    by_cases own : other = process
    · rw [own, Function.update_self]
      exact same
    · rw [Function.update_of_ne own]
  exact exists_congr alike

/-- A step that stores and takes nothing leaves both lists. -/
theorem lists_unchanged (history : List (Event System Action)) (event : Event System Action)
    (noneStored : storedBy event = none) (noneTaken : takenBy event = none) :
    stored (history ++ [event]) = stored history ∧ taken (history ++ [event]) = taken history := by
  simp [stored, taken, List.filterMap_append, noneStored, noneTaken]

/-- Moving a process between stages that agree on both kinds of pending assignment
keeps what orderly runs keep. -/
theorem ordered_moved (history : List (Event System Action)) (event : Event System Action)
    (system : System) (ordered : Ordered history system) (process : Nat) (next : Progress)
    (rear : next = .clearRear ↔ system.progress process = .clearRear)
    (between : next = .clearRear ∨ next = .clearFront ↔
      system.progress process = .clearRear ∨ system.progress process = .clearFront)
    (noneStored : storedBy event = none) (noneTaken : takenBy event = none) :
    Ordered (history ++ [event])
      ⟨system.queue, Function.update system.progress process next⟩ := by
  obtain ⟨sameStored, sameTaken⟩ := lists_unchanged history event noneStored noneTaken
  have pending : RearPending ⟨system.queue, Function.update system.progress process next⟩ ↔
      RearPending system :=
    exists_update_congr system.progress (fun stage => stage = .clearRear) process next rear
  have clearing : Clearing ⟨system.queue, Function.update system.progress process next⟩ ↔
      Clearing system :=
    exists_update_congr system.progress (fun stage => stage = .clearRear ∨ stage = .clearFront)
      process next between
  have slot (first : Int) :
      FirstSlot ⟨system.queue, Function.update system.progress process next⟩ first ↔
        FirstSlot system first := by
    rw [FirstSlot, FirstSlot, clearing]
  refine ⟨ordered.frontInside, ordered.rearInside, ordered.countInside, ?_, ?_, ?_⟩
  · exact fun rearPending => ordered.cleared (pending.mp rearPending)
  · exact fun calm first isFirst =>
      ordered.placed (fun rearPending => calm (pending.mpr rearPending)) first
        ((slot first).mp isFirst)
  · intro first isFirst item
    rw [sameStored, sameTaken]
    exact ordered.owned first ((slot first).mp isFirst) item

/-- A step that changes nothing keeps what orderly runs keep. -/
theorem ordered_unchanged (history : List (Event System Action)) (event : Event System Action)
    (system : System) (ordered : Ordered history system)
    (noneStored : storedBy event = none) (noneTaken : takenBy event = none) :
    Ordered (history ++ [event]) system := by
  have moved := ordered_moved history event system ordered 0 (system.progress 0) Iff.rfl Iff.rfl
    noneStored noneTaken
  rwa [Function.update_eq_self] at moved

/-- Storing a character while no rear is to be set keeps what orderly runs keep. -/
theorem ordered_stored (history : List (Event System Action)) (event : Event System Action)
    (system : System) (ordered : Ordered history system) (item : UInt8)
    (calm : ¬ RearPending system) (room : system.queue.count ≠ 64)
    (storesItem : storedBy event = some item) (noneTaken : takenBy event = none) :
    Ordered (history ++ [event]) { system with queue := (enqueue system.queue item).1 } := by
  have rear := ordered.rearInside
  have count := ordered.countInside
  have moved := tmod_next system.queue.rear rear.1
  have enqueued : enqueue system.queue item = _ := if_neg room
  rw [enqueued]
  refine ⟨ordered.frontInside, ?_, ?_, fun pending => absurd pending calm, ?_, ?_⟩
  · simp only [moved]
    omega
  · simp only
    omega
  · intro _ first isFirst
    have placed := ordered.placed calm first isFirst
    simp only [moved]
    omega
  · intro first isFirst other
    have placed := ordered.placed calm first isFirst
    have owned := ordered.owned first isFirst other
    have number : (system.queue.count.toNat : Int) = system.queue.count :=
      Int.toNat_of_nonneg count.1
    have next : (system.queue.count + 1).toNat = system.queue.count.toNat + 1 := by omega
    have slot : system.queue.rear =
        (first + (system.queue.count.toNat : Int)) % (queueSize : Nat) := by
      rw [number]
      exact placed
    have appended := held_insert system.queue.items queueSize first system.queue.count.toNat item
      (by simp only [queueSize]; omega)
    have storedNext : stored (history ++ [event]) = stored history ++ [item] := by
      simp [stored, List.filterMap_append, storesItem]
    have takenNext : taken (history ++ [event]) = taken history := by
      simp [taken, List.filterMap_append, noneTaken]
    simp only [next, slot, storedNext, takenNext]
    rw [appended, List.count_append, List.count_append]
    omega

/-- Taking a character while no assignment is under way yields one that is stored,
and keeps what orderly runs keep. -/
theorem ordered_taken (history : List (Event System Action)) (event : Event System Action)
    (system : System) (ordered : Ordered history system) (item : UInt8)
    (calm : ¬ Clearing system) (some : system.queue.count ≠ 0) :
    ∃ queue oldest, dequeue system.queue item = (queue, 0, oldest) ∧
      (taken history).count oldest < (stored history).count oldest ∧
      (storedBy event = none → takenBy event = .some oldest →
        Ordered (history ++ [event]) { system with queue := queue }) := by
  have own : FirstSlot system system.queue.front := Or.inr ⟨calm, rfl⟩
  have noRear : ¬ RearPending system :=
    fun ⟨process, stage⟩ => calm ⟨process, Or.inl stage⟩
  have wellFormed : WellFormed system.queue :=
    ⟨ordered.frontInside, ordered.rearInside, ordered.countInside, ordered.placed noRear _ own⟩
  obtain ⟨queue, oldest, removed, nextFormed, front, _⟩ :=
    dequeue_oldest system.queue item wellFormed some
  have owned (other : UInt8) :
      (taken history).count other + (oldest :: contents queue).count other ≤
        (stored history).count other := by
    rw [← front]
    exact ordered.owned _ own other
  refine ⟨queue, oldest, removed, ?_, ?_⟩
  · have mine := owned oldest
    rw [List.count_cons_self] at mine
    omega
  · intro noneStored takesOldest
    have storedNext : stored (history ++ [event]) = stored history := by
      simp [stored, List.filterMap_append, noneStored]
    have takenNext : taken (history ++ [event]) = taken history ++ [oldest] := by
      simp [taken, List.filterMap_append, takesOldest]
    refine ⟨nextFormed.frontInside, nextFormed.rearInside, nextFormed.countInside,
      fun pending => absurd pending noRear, ?_, ?_⟩
    · rintro _ first (⟨clearing, _⟩ | ⟨_, rfl⟩)
      · exact absurd clearing calm
      · exact nextFormed.rearBehind
    · rintro first (⟨clearing, _⟩ | ⟨_, rfl⟩) other
      · exact absurd clearing calm
      · have before := owned other
        rw [storedNext, takenNext, List.count_append]
        rw [List.count_cons] at before
        change (taken history).count other + [oldest].count other +
          (contents queue).count other ≤ _
        rw [List.count_singleton]
        omega

/-- Without values, only the order of the lists remains. -/
theorem owned_nothing (history : List (Event System Action)) (system : System)
    (ordered : Ordered history system) (item : UInt8) :
    (taken history).count item + ([] : List UInt8).count item ≤ (stored history).count item := by
  obtain ⟨first, isFirst, _⟩ := first_slot_exists system ordered.frontInside
  have owned := ordered.owned first isFirst item
  rw [List.count_nil]
  omega

/-- The assignment to the count empties the queue, whatever it held. -/
theorem ordered_count_cleared (history : List (Event System Action))
    (event : Event System Action) (system : System) (ordered : Ordered history system)
    (process : Nat) (noneStored : storedBy event = none) (noneTaken : takenBy event = none) :
    Ordered (history ++ [event]) ⟨{ system.queue with count := 0 },
      Function.update system.progress process .clearRear⟩ := by
  obtain ⟨sameStored, sameTaken⟩ := lists_unchanged history event noneStored noneTaken
  have zero : (0 : Int) ≤ 0 ∧ (0 : Int) ≤ 64 := by decide
  refine ⟨ordered.frontInside, ordered.rearInside, zero, fun _ => rfl, ?_, ?_⟩
  · exact fun calm => absurd ⟨process, Function.update_self _ _ _⟩ calm
  · intro first _ item
    rw [sameStored, sameTaken]
    exact owned_nothing history system ordered item

/-- The assignment to the rear meets an empty queue and leaves its indices equal once
the front is set. -/
theorem ordered_rear_cleared (history : List (Event System Action))
    (event : Event System Action) (system : System) (ordered : Ordered history system)
    (process : Nat) (stage : system.progress process = .clearRear)
    (noneStored : storedBy event = none) (noneTaken : takenBy event = none) :
    Ordered (history ++ [event]) ⟨{ system.queue with rear := 0 },
      Function.update system.progress process .clearFront⟩ := by
  obtain ⟨sameStored, sameTaken⟩ := lists_unchanged history event noneStored noneTaken
  have zero : (0 : Int) ≤ 0 ∧ (0 : Int) < 64 := by decide
  have none : system.queue.count = 0 := ordered.cleared ⟨process, stage⟩
  refine ⟨ordered.frontInside, zero, ordered.countInside, fun _ => none, ?_, ?_⟩
  · rintro _ first (⟨_, rfl⟩ | ⟨calm, _⟩)
    · simp only [none]
      rfl
    · exact absurd ⟨process, Or.inr (Function.update_self _ _ _)⟩ calm
  · intro first _ item
    have nothing := owned_nothing history system ordered item
    rw [sameStored, sameTaken]
    simp only [none]
    exact nothing

/-- The assignment to the front brings it to the first slot. -/
theorem ordered_front_cleared (history : List (Event System Action))
    (event : Event System Action) (system : System) (ordered : Ordered history system)
    (process : Nat) (stage : system.progress process = .clearFront)
    (noneStored : storedBy event = none) (noneTaken : takenBy event = none) :
    Ordered (history ++ [event]) ⟨{ system.queue with front := 0 },
      Function.update system.progress process .outside⟩ := by
  obtain ⟨sameStored, sameTaken⟩ := lists_unchanged history event noneStored noneTaken
  have zero : (0 : Int) ≤ 0 ∧ (0 : Int) < 64 := by decide
  have start : FirstSlot system 0 := Or.inl ⟨⟨process, Or.inr stage⟩, rfl⟩
  have pending :
      (∃ other, Function.update system.progress process .outside other = .clearRear) ↔
        RearPending system :=
    exists_update_congr system.progress (fun stage => stage = .clearRear) process .outside
      (by rw [stage]; decide)
  have onlyStart (first : Int)
      (isFirst : FirstSlot ⟨{ system.queue with front := 0 },
        Function.update system.progress process .outside⟩ first) : first = 0 := by
    rcases isFirst with ⟨_, same⟩ | ⟨_, same⟩
    · exact same
    · exact same
  refine ⟨zero, ordered.rearInside, ordered.countInside, ?_, ?_, ?_⟩
  · exact fun rear => ordered.cleared (pending.mp rear)
  · intro calm first isFirst
    rw [onlyStart first isFirst]
    exact ordered.placed (fun rear => calm (pending.mpr rear)) 0 start
  · intro first isFirst item
    rw [onlyStart first isFirst, sameStored, sameTaken]
    exact ordered.owned 0 start item

/-- A step that takes nothing takes only what is stored. -/
theorem takes_nothing (history : List (Event System Action)) (event : Event System Action)
    (noneTaken : takenBy event = none) : TakesStored history event := by
  intro item takes
  rw [noneTaken] at takes
  contradiction

/-- A removal that meets a character and no assignment under way, for a caller or in
the loop of a `queue_empty`, keeps what orderly runs keep and takes what is stored. -/
theorem removal_kept (history : List (Event System Action)) (event : Event System Action)
    (ordered : Ordered history event.before) (item : UInt8) (calm : ¬ Clearing event.before)
    (some : event.before.queue.count ≠ 0) (noneStored : storedBy event = none)
    (removes : ∀ queue oldest, dequeue event.before.queue item = (queue, 0, oldest) →
      event.left step = { event.before with queue := queue } ∧ takenBy event = .some oldest) :
    Ordered (history ++ [event]) (event.left step) ∧ TakesStored history event := by
  obtain ⟨queue, oldest, removed, fewer, next⟩ :=
    ordered_taken history event event.before ordered item calm some
  obtain ⟨left, takes⟩ := removes queue oldest removed
  rw [left]
  refine ⟨next noneStored takes, ?_⟩
  intro other same
  rw [← Option.some.inj (takes.symm.trans same)]
  exact fewer

/-- An assignment takes nothing. -/
theorem assignment_takes_nothing (system : System) (process : Nat) (item : UInt8)
    (stage : system.progress process ≠ .draining) :
    takenBy ⟨system, .advance process item⟩ = none := by
  cases next : system.progress process with
  | draining => exact absurd next stage
  | outside | clearCount | clearRear | clearFront =>
    simp only [takenBy, Event.reply, step, next]

/-- A turn of the loop of `queue_empty` removes a character or leaves the loop. -/
theorem draining_kept (history : List (Event System Action)) (system : System)
    (ordered : Ordered history system) (process : Nat) (item : UInt8)
    (stage : system.progress process = .draining)
    (orderly : system.queue.count = 0 ∨ ¬ Clearing system) :
    Ordered (history ++ [⟨system, .advance process item⟩])
        (Event.left step ⟨system, .advance process item⟩) ∧
      TakesStored history ⟨system, .advance process item⟩ := by
  by_cases none : system.queue.count = 0
  · have removed := dequeue_empty system.queue item none
    have noneTaken : takenBy ⟨system, .advance process item⟩ = .none := by
      simp only [takenBy, Event.reply, step, stage, removed]
      rfl
    have left : Event.left step ⟨system, .advance process item⟩ =
        ⟨system.queue, Function.update system.progress process .clearCount⟩ := by
      simp only [Event.left, step, stage, removed]
      rfl
    rw [left]
    exact ⟨ordered_moved history _ system ordered process .clearCount (by simp [stage])
      (by simp [stage]) rfl noneTaken, takes_nothing history _ noneTaken⟩
  · apply removal_kept history ⟨system, .advance process item⟩ ordered item
      (orderly.resolve_left none) none rfl
    intro queue oldest removed
    constructor
    · simp only [Event.left, step, stage, removed, if_true]
    · simp only [takenBy, Event.reply, step, stage, removed, if_true]

/-- A call of `enqueue` stores its character, or meets a full queue and changes nothing. -/
theorem enqueue_kept (history : List (Event System Action)) (system : System)
    (ordered : Ordered history system) (item : UInt8)
    (orderly : system.queue.count = 64 ∨ ¬ RearPending system) :
    Ordered (history ++ [⟨system, .enqueue item⟩]) (Event.left step ⟨system, .enqueue item⟩) := by
  by_cases full : system.queue.count = 64
  · have left : Event.left step ⟨system, .enqueue item⟩ = system := by
      simp only [Event.left, step, enqueue_full system.queue item full]
    have noneStored : storedBy ⟨system, .enqueue item⟩ = none := by
      simp only [storedBy, Event.reply, step, enqueue_full system.queue item full]
      rfl
    rw [left]
    exact ordered_unchanged history _ system ordered noneStored rfl
  · have storesItem : storedBy ⟨system, .enqueue item⟩ = some item := by
      have enqueued : enqueue system.queue item = _ := if_neg full
      simp only [storedBy, Event.reply, step, enqueued, if_true]
    exact ordered_stored history _ system ordered item (orderly.resolve_left full) full
      storesItem rfl

/-- A call of `dequeue` removes a character, or meets an empty queue and changes nothing. -/
theorem dequeue_kept (history : List (Event System Action)) (system : System)
    (ordered : Ordered history system) (item : UInt8)
    (orderly : system.queue.count = 0 ∨ ¬ Clearing system) :
    Ordered (history ++ [⟨system, .dequeue item⟩]) (Event.left step ⟨system, .dequeue item⟩) ∧
      TakesStored history ⟨system, .dequeue item⟩ := by
  by_cases none : system.queue.count = 0
  · have removed := dequeue_empty system.queue item none
    have left : Event.left step ⟨system, .dequeue item⟩ = system := by
      simp only [Event.left, step, removed]
    have noneTaken : takenBy ⟨system, .dequeue item⟩ = .none := by
      simp only [takenBy, Event.reply, step, removed]
      rfl
    rw [left]
    exact ⟨ordered_unchanged history _ system ordered rfl noneTaken,
      takes_nothing history _ noneTaken⟩
  · apply removal_kept history ⟨system, .dequeue item⟩ ordered item
      (orderly.resolve_left none) none rfl
    intro queue oldest removed
    constructor
    · simp only [Event.left, step, removed]
    · simp only [takenBy, Event.reply, step, removed, if_true]

/-- The entry into `queue_empty` moves its process and nothing else. -/
theorem queue_empty_kept (history : List (Event System Action)) (system : System)
    (ordered : Ordered history system) (process : Nat) :
    Ordered (history ++ [⟨system, .queueEmpty process⟩])
        (Event.left step ⟨system, .queueEmpty process⟩) ∧
      TakesStored history ⟨system, .queueEmpty process⟩ := by
  have noneTaken : takenBy ⟨system, .queueEmpty process⟩ = none := by
    cases stage : system.progress process <;> simp only [takenBy, Event.reply, step, stage]
  refine ⟨?_, takes_nothing history _ noneTaken⟩
  cases stage : system.progress process with
  | outside =>
    simp only [Event.left, step, stage]
    exact ordered_moved history _ system ordered process .draining (by simp [stage])
      (by simp [stage]) rfl noneTaken
  | draining | clearCount | clearRear | clearFront =>
    simp only [Event.left, step, stage]
    exact ordered_unchanged history _ system ordered rfl noneTaken

/-- Behind its loop a process makes its next assignment, or is not in `queue_empty`. -/
theorem assignment_kept (history : List (Event System Action)) (system : System)
    (ordered : Ordered history system) (process : Nat) (item : UInt8)
    (behind : system.progress process ≠ .draining) :
    Ordered (history ++ [⟨system, .advance process item⟩])
        (Event.left step ⟨system, .advance process item⟩) ∧
      TakesStored history ⟨system, .advance process item⟩ := by
  have noneTaken := assignment_takes_nothing system process item behind
  refine ⟨?_, takes_nothing history _ noneTaken⟩
  cases stage : system.progress process with
  | draining => exact absurd stage behind
  | outside =>
    simp only [Event.left, step, stage]
    exact ordered_unchanged history _ system ordered rfl noneTaken
  | clearCount =>
    simp only [Event.left, step, stage]
    exact ordered_count_cleared history _ system ordered process rfl noneTaken
  | clearRear =>
    simp only [Event.left, step, stage]
    exact ordered_rear_cleared history _ system ordered process stage rfl noneTaken
  | clearFront =>
    simp only [Event.left, step, stage]
    exact ordered_front_cleared history _ system ordered process stage rfl noneTaken

/-- Every orderly step keeps what orderly runs keep, and takes only what is stored.

Proof: by cases on the step, each with its own lemma. A turn of the loop of a
`queue_empty` is told from its assignments by the stage of the process. -/
theorem ordered_kept (history : List (Event System Action)) (event : Event System Action)
    (ordered : Ordered history event.before) (orderly : Orderly event) :
    Ordered (history ++ [event]) (event.left step) ∧ TakesStored history event := by
  obtain ⟨system, action⟩ := event
  cases action with
  | enqueue item =>
    exact ⟨enqueue_kept history system ordered item orderly, takes_nothing history _ rfl⟩
  | dequeue item => exact dequeue_kept history system ordered item orderly
  | queueEmpty process => exact queue_empty_kept history system ordered process
  | advance process item =>
    by_cases draining : system.progress process = .draining
    · exact draining_kept history system ordered process item draining (orderly draining)
    · exact assignment_kept history system ordered process item draining

/-- The initialised queue is in order. -/
theorem start_ordered (memory : Queue) : Ordered [] (start memory) := by
  obtain ⟨front, rear, count, behind⟩ := (init_well_formed memory).1
  have idle : ¬ Clearing (start memory) := by
    rintro ⟨process, rear | front⟩
    · contradiction
    · contradiction
  refine ⟨front, rear, count, fun _ => rfl, ?_, ?_⟩
  · rintro _ first (⟨clearing, _⟩ | ⟨_, rfl⟩)
    · exact absurd clearing idle
    · exact behind
  · exact fun _ _ _ => Nat.le_refl _

/-- For every interleaving of any number of calls whose steps are all orderly: in
every state in which no `queue_empty` is between its assignments, the indices and the
count agree; and whatever a successful `dequeue` yields has been stored and was not
yet taken. -/
theorem orderly_clearing_consistent (memory : Queue) (actions : List Action)
    (orderly : ∀ event ∈ trace step (start memory) actions, Orderly event) :
    AtEachState step (start memory) actions
        (fun _ system => ¬ Clearing system → Consistent system.queue) ∧
      AtEachCall step (start memory) actions TakesStored := by
  have conditions := (at_each_call_iff step (start memory) actions Orderly).mpr orderly
  have ordered : AtEachState step (start memory) actions Ordered :=
    history_along step Ordered (fun _ => Orderly)
      (fun history event met steps => (ordered_kept history event met steps).1)
      (start memory) actions (start_ordered memory) conditions
  constructor
  · intro earlier isPrefix idle
    have before := ordered earlier isPrefix
    have noRear : ¬ RearPending (after step (start memory) earlier) :=
      fun ⟨process, stage⟩ => idle ⟨process, Or.inl stage⟩
    exact ⟨before.placed noRear _ (Or.inr ⟨idle, rfl⟩), before.countInside⟩
  · intro earlier action isPrefix
    have before := ordered earlier ((List.prefix_append _ _).trans isPrefix)
    exact (ordered_kept _ ⟨after step (start memory) earlier, action⟩ before
      (conditions earlier action isPrefix)).2

/-- One process clears a queue of one character, and nobody interferes. -/
def clearedAlone : List Action :=
  [.enqueue 5, .queueEmpty 0, .advance 0 0, .advance 0 0, .advance 0 0, .advance 0 0, .advance 0 0]

/-- Clearing alone is orderly, and keeps the queue consistent. -/
theorem cleared_alone_consistent :
    AtEachState step (start blank) clearedAlone
        (fun _ system => ¬ Clearing system → Consistent system.queue) ∧
      AtEachCall step (start blank) clearedAlone TakesStored := by
  apply orderly_clearing_consistent blank clearedAlone
  rintro event (_ | ⟨_, _ | ⟨_, _ | ⟨_, _ | ⟨_, _ | ⟨_, _ | ⟨_, _ | ⟨_, impossible⟩⟩⟩⟩⟩⟩⟩)
  · exact Or.inr (fun ⟨_, stage⟩ => by contradiction)
  · trivial
  · refine fun _ => Or.inr ?_
    rintro ⟨process, stage⟩
    by_cases own : process = 0
    · subst own
      exact absurd stage (by decide)
    · have outside : Function.update (fun _ => Progress.outside) 0 .draining process = .outside :=
        Function.update_of_ne own _ _
      rcases stage with rear | front
      · exact absurd (outside.symm.trans rear) (by decide)
      · exact absurd (outside.symm.trans front) (by decide)
  · exact fun _ => Or.inl (by decide)
  · exact fun stage => absurd stage (by decide)
  · exact fun stage => absurd stage (by decide)
  · exact fun stage => absurd stage (by decide)
  · contradiction

/-- One character has come and gone when a process clears the queue; another arrives
after the process has set the count. -/
def clearedUnderWay : List Action :=
  [.enqueue 5, .dequeue 0, .queueEmpty 0, .advance 0 0, .advance 0 0, .enqueue 7, .advance 0 0,
    .advance 0 0]

/-- Nobody clears the queue any more, its indices and count disagree, and the next
`dequeue` yields the character that was taken before. -/
theorem arrival_during_clearing_breaks_queue :
    ¬ AtEachState step (start blank) clearedUnderWay
        (fun _ system => ¬ Clearing system → Consistent system.queue) ∧
      takenBy ⟨after step (start blank) clearedUnderWay, .dequeue 0⟩ = some 5 ∧
      ¬ AtEachCall step (start blank) (clearedUnderWay ++ [.dequeue 0]) TakesStored := by
  have taken : takenBy ⟨after step (start blank) clearedUnderWay, .dequeue 0⟩ = some 5 := by decide
  refine ⟨?_, taken, ?_⟩
  · intro consistent
    have idle : ¬ Clearing (after step (start blank) clearedUnderWay) := by
      rintro ⟨process, stage⟩
      have outside : (after step (start blank) clearedUnderWay).progress process = .outside := by
        simp [clearedUnderWay, start, step, queueInit, enqueue, dequeue, blank]
      rw [outside] at stage
      exact absurd stage (by decide)
    have relation := (consistent clearedUnderWay List.prefix_rfl idle).1
    exact absurd relation (by decide)
  · intro takes
    have fewer := takes clearedUnderWay (.dequeue 0) List.prefix_rfl 5 taken
    exact absurd fewer (by decide)

end LddExamples.QueueClearing
