import LddExamples.Runs
import Mathlib.Data.List.Basic
import Mathlib.Logic.Function.Basic

/-!
# Sections under one lock

Threads share a state and a lock. A call waits for the lock, runs its section one access
at a time, and gives the lock back; between two accesses of one thread any steps of the
others may come. An access may read and change the shared state and the locals of the
section, and every section ends.

Whatever the order of the steps, a run is a serial one: its answers and its state are
those of the sections executed whole, one after the other in the order of their entries.
An entry lies between the call and its answer, so the serial order is one in which calls
that do not overlap keep theirs. Nothing here depends on what the sections do.
-/

namespace LddExamples.LockedSections

open Runs

universe u v w x y
variable {σ : Type u} {κ : Type y} {ℓ : Type v} {ρ : Type w} {θ : Type x}

/-- What remains of a section after an access: its locals, or its result. -/
inductive Progress (ℓ : Type v) (ρ : Type w) where
  | goesOn (locals : ℓ)
  | ends (result : ρ)

/-- The code of the sections: the locals with which a call starts, what an access does, and
a bound on the accesses that are left. -/
structure Code (σ : Type u) (κ : Type y) (ℓ : Type v) (ρ : Type w) where
  start : κ → ℓ
  access : σ → ℓ → σ × Progress ℓ ρ
  left : ℓ → Nat
  shrinks : ∀ state locals next rest,
    access state locals = (next, .goesOn rest) → left rest < left locals

/-- The rest of a section executed at once. -/
def Code.whole (code : Code σ κ ℓ ρ) (state : σ) (locals : ℓ) : σ × ρ :=
  match _ : code.access state locals with
  | (next, .goesOn rest) => code.whole next rest
  | (next, .ends result) => (next, result)
termination_by code.left locals
decreasing_by exact code.shrinks state locals next rest ‹_›

/-- Where a thread is in its call. -/
inductive Stage (κ : Type y) (ℓ : Type v) (ρ : Type w) where
  | idle
  | waiting (call : κ)
  | inside (locals : ℓ)
  | leaving (result : ρ)

/-- The thread has the lock. -/
def Stage.Within : Stage κ ℓ ρ → Prop
  | .inside _ => True
  | .leaving _ => True
  | _ => False

/-- What the threads share, the thread that holds the lock, and where each thread is. -/
structure System (σ : Type u) (κ : Type y) (ℓ : Type v) (ρ : Type w) (θ : Type x) where
  shared : σ
  holder : Option θ
  stage : θ → Stage κ ℓ ρ

/-- A thread makes a call, enters its section, makes one access in it, or leaves it. -/
inductive Action (κ : Type y) (θ : Type x) where
  | call (thread : θ) (call : κ)
  | enter (thread : θ)
  | access (thread : θ)
  | leave (thread : θ)

/-- A shared state whose lock is free and that no thread uses. -/
def fresh (shared : σ) : System σ κ ℓ ρ θ := ⟨shared, none, fun _ => .idle⟩

/-- The section that a step enters. -/
def entry (event : Event (System σ κ ℓ ρ θ) (Action κ θ)) : Option (θ × κ) :=
  match event.call with
  | .enter thread =>
      match event.before.holder, event.before.stage thread with
      | none, .waiting call => some (thread, call)
      | _, _ => none
  | _ => none

/-- The answer with which a step leaves a section. -/
def answer (event : Event (System σ κ ℓ ρ θ) (Action κ θ)) : Option (θ × ρ) :=
  match event.call with
  | .leave thread =>
      match event.before.stage thread with
      | .leaving result => some (thread, result)
      | _ => none
  | _ => none

/-- A section executed whole, with its answer. -/
def serialStep (code : Code σ κ ℓ ρ) (state : σ) (entered : θ × κ) : σ × (θ × ρ) :=
  let (next, result) := code.whole state (code.start entered.2)
  (next, (entered.1, result))

/-- The shared state once the running section has ended, and the answer that it still
owes. -/
def settled (code : Code σ κ ℓ ρ) (system : System σ κ ℓ ρ θ) : σ × List (θ × ρ) :=
  match system.holder with
  | none => (system.shared, [])
  | some thread =>
      match system.stage thread with
      | .inside locals =>
          let (next, result) := code.whole system.shared locals
          (next, [(thread, result)])
      | .leaving result => (system.shared, [(thread, result)])
      | _ => (system.shared, [])

/-- The lock is with the one thread that has entered and not left, if there is one. -/
def Exclusive (system : System σ κ ℓ ρ θ) : Prop :=
  ∀ thread, (system.stage thread).Within ↔ system.holder = some thread

/-- The lock is free, and no thread is within. -/
theorem fresh_exclusive (shared : σ) : Exclusive (fresh shared : System σ κ ℓ ρ θ) :=
  fun _ => iff_of_false id (fun impossible => Option.some_ne_none _ impossible.symm)

/-- What settles, by the stage of the holder. -/
theorem settled_inside (code : Code σ κ ℓ ρ) (system : System σ κ ℓ ρ θ) (thread : θ) (locals : ℓ)
    (held : system.holder = some thread) (inside : system.stage thread = .inside locals) :
    settled code system = ((code.whole system.shared locals).1,
      [(thread, (code.whole system.shared locals).2)]) := by
  simp only [settled, held, inside]

/-- A holder that is about to leave has settled all but its answer. -/
theorem settled_leaving (code : Code σ κ ℓ ρ) (system : System σ κ ℓ ρ θ) (thread : θ) (result : ρ)
    (held : system.holder = some thread) (leaves : system.stage thread = .leaving result) :
    settled code system = (system.shared, [(thread, result)]) := by
  simp only [settled, held, leaves]

/-- With the lock free, everything is settled. -/
theorem settled_free (code : Code σ κ ℓ ρ) (system : System σ κ ℓ ρ θ)
    (free : system.holder = none) : settled code system = (system.shared, []) := by
  simp only [settled, free]

/-- A section that goes on does what its rest does. -/
theorem whole_goes_on (code : Code σ κ ℓ ρ) (state next : σ) (locals rest : ℓ)
    (went : code.access state locals = (next, .goesOn rest)) :
    code.whole state locals = code.whole next rest := by
  rw [Code.whole]
  split
  · next other later same =>
    obtain ⟨rfl, together⟩ := Prod.mk.inj (went.symm.trans same)
    rw [Progress.goesOn.inj together]
  · next other result same => exact absurd (went.symm.trans same) (by simp)

/-- A section that ends has its result. -/
theorem whole_ends (code : Code σ κ ℓ ρ) (state next : σ) (locals : ℓ) (result : ρ)
    (ended : code.access state locals = (next, .ends result)) :
    code.whole state locals = (next, result) := by
  rw [Code.whole]
  split
  · next other rest same => exact absurd (ended.symm.trans same) (by simp)
  · next other last same =>
    obtain ⟨rfl, together⟩ := Prod.mk.inj (ended.symm.trans same)
    rw [Progress.ends.inj together]

variable [DecidableEq θ]

/-- The system with a thread at another stage, and with another state and holder. -/
def System.move (system : System σ κ ℓ ρ θ) (shared : σ) (holder : Option θ) (thread : θ)
    (stage : Stage κ ℓ ρ) : System σ κ ℓ ρ θ :=
  ⟨shared, holder, Function.update system.stage thread stage⟩

/-- One step, with the result that it returns to a caller; one that is not enabled changes
nothing. -/
def step (code : Code σ κ ℓ ρ) (system : System σ κ ℓ ρ θ) :
    Action κ θ → System σ κ ℓ ρ θ × Option ρ
  | .call thread call =>
      match system.stage thread with
      | .idle => (system.move system.shared system.holder thread (.waiting call), none)
      | _ => (system, none)
  | .enter thread =>
      match system.holder, system.stage thread with
      | none, .waiting call =>
          (system.move system.shared (some thread) thread (.inside (code.start call)), none)
      | _, _ => (system, none)
  | .access thread =>
      match system.stage thread with
      | .inside locals =>
          match code.access system.shared locals with
          | (next, .goesOn rest) =>
              (system.move next system.holder thread (.inside rest), none)
          | (next, .ends result) =>
              (system.move next system.holder thread (.leaving result), none)
      | _ => (system, none)
  | .leave thread =>
      match system.stage thread with
      | .leaving result => (system.move system.shared none thread .idle, some result)
      | _ => (system, none)

/-- What a step does, with the section that it enters and the answer that it gives. -/
inductive Effect (code : Code σ κ ℓ ρ) (system : System σ κ ℓ ρ θ) :
    Action κ θ → Option (θ × κ) → Option (θ × ρ) → System σ κ ℓ ρ θ → Prop
  | called (thread : θ) (call : κ) (idle : system.stage thread = .idle) :
      Effect code system (.call thread call) none none
        (system.move system.shared system.holder thread (.waiting call))
  | entered (thread : θ) (call : κ) (free : system.holder = none)
      (waits : system.stage thread = .waiting call) :
      Effect code system (.enter thread) (some (thread, call)) none
        (system.move system.shared (some thread) thread (.inside (code.start call)))
  | wentOn (thread : θ) (locals rest : ℓ) (next : σ)
      (inside : system.stage thread = .inside locals)
      (went : code.access system.shared locals = (next, .goesOn rest)) :
      Effect code system (.access thread) none none
        (system.move next system.holder thread (.inside rest))
  | ended (thread : θ) (locals : ℓ) (result : ρ) (next : σ)
      (inside : system.stage thread = .inside locals)
      (went : code.access system.shared locals = (next, .ends result)) :
      Effect code system (.access thread) none none
        (system.move next system.holder thread (.leaving result))
  | left (thread : θ) (result : ρ) (leaves : system.stage thread = .leaving result) :
      Effect code system (.leave thread) none (some (thread, result))
        (system.move system.shared none thread .idle)
  | unchanged (action : Action κ θ) : Effect code system action none none system

/-- Every step has one of these effects. -/
theorem step_effect (code : Code σ κ ℓ ρ) (system : System σ κ ℓ ρ θ) (action : Action κ θ) :
    Effect code system action (entry ⟨system, action⟩) (answer ⟨system, action⟩)
      (step code system action).1 := by
  cases action with
  | call thread call =>
    cases stage : system.stage thread with
    | idle =>
      simp only [step, entry, answer, stage]
      exact .called thread call stage
    | waiting | inside | leaving =>
      simp only [step, entry, answer, stage]
      exact .unchanged _
  | enter thread =>
    cases free : system.holder with
    | none =>
      cases stage : system.stage thread with
      | waiting call =>
        simp only [step, entry, answer, free, stage]
        exact .entered thread call free stage
      | idle | inside | leaving =>
        simp only [step, entry, answer, free, stage]
        exact .unchanged _
    | some holder =>
      simp only [step, entry, answer, free]
      exact .unchanged _
  | access thread =>
    cases stage : system.stage thread with
    | inside locals =>
      rcases went : code.access system.shared locals with ⟨next, rest | result⟩
      · simp only [step, entry, answer, stage, went]
        exact .wentOn thread locals rest next stage went
      · simp only [step, entry, answer, stage, went]
        exact .ended thread locals result next stage went
    | idle | waiting | leaving =>
      simp only [step, entry, answer, stage]
      exact .unchanged _
  | leave thread =>
    cases stage : system.stage thread with
    | leaving result =>
      simp only [step, entry, answer, stage]
      exact .left thread result stage
    | idle | waiting | inside =>
      simp only [step, entry, answer, stage]
      exact .unchanged _

section Move

variable (system : System σ κ ℓ ρ θ) (shared : σ) (holder : Option θ) (thread : θ)
  (stage : Stage κ ℓ ρ)

/-- The shared state after a move. -/
@[simp] theorem move_shared : (system.move shared holder thread stage).shared = shared := rfl

/-- The holder after a move. -/
@[simp] theorem move_holder : (system.move shared holder thread stage).holder = holder := rfl

/-- The thread is where it was moved to. -/
@[simp] theorem move_self : (system.move shared holder thread stage).stage thread = stage := by
  simp only [System.move, Function.update_self]

/-- The other threads stay where they are. -/
theorem move_other (other : θ) (different : other ≠ thread) :
    (system.move shared holder thread stage).stage other = system.stage other := by
  simp only [System.move, Function.update_of_ne different]

/-- The last move of a thread counts. -/
theorem move_move (later : σ) (next : Option θ) (last : Stage κ ℓ ρ) :
    (system.move shared holder thread stage).move later next thread last =
      system.move later next thread last := by
  simp only [System.move, Function.update_idem]

end Move

/-- No thread is between its entry and its leave while the lock is free, and one that is
has the lock. -/
theorem exclusive_kept (code : Code σ κ ℓ ρ) (system : System σ κ ℓ ρ θ) (action : Action κ θ)
    (exclusive : Exclusive system) : Exclusive (step code system action).1 := by
  have effect := step_effect code system action
  generalize (step code system action).1 = next at effect ⊢
  generalize entry ⟨system, action⟩ = entered at effect
  generalize answer ⟨system, action⟩ = answered at effect
  -- A thread that changes between two stages within, or between two outside, changes nothing.
  have moved (shared : σ) (thread : θ) (stage : Stage κ ℓ ρ)
      (same : stage.Within ↔ (system.stage thread).Within) (other : θ) :
      ((system.move shared system.holder thread stage).stage other).Within ↔
        system.holder = some other := by
    by_cases here : other = thread
    · rw [here, move_self, same]
      exact exclusive thread
    · rw [move_other _ _ _ _ _ _ here]
      exact exclusive other
  cases effect with
  | called thread call idle => exact moved _ thread _ (by rw [idle]; rfl)
  | entered thread call free waits =>
    intro other
    by_cases here : other = thread
    · rw [here]
      exact iff_of_true (by simp [Stage.Within]) rfl
    · have outside : ¬ (system.stage other).Within := by
        rw [exclusive other, free]
        exact fun impossible => Option.some_ne_none _ impossible.symm
      refine iff_of_false ?_ (fun same => here (Option.some.inj same).symm)
      rw [move_other _ _ _ _ _ _ here]
      exact outside
  | wentOn thread locals rest after inside went =>
    exact moved _ thread _ (by rw [inside]; rfl)
  | ended thread locals result after inside went =>
    exact moved _ thread _ (by rw [inside]; rfl)
  | left thread result leaves =>
    have held : system.holder = some thread := (exclusive thread).mp (by rw [leaves]; trivial)
    intro other
    refine iff_of_false (fun within => ?_) (fun impossible => Option.some_ne_none _ impossible.symm)
    by_cases here : other = thread
    · rw [here] at within
      rw [move_self] at within
      exact within
    · rw [move_other _ _ _ _ _ _ here] at within
      have holds := (exclusive other).mp within
      exact here (Option.some.inj (holds.symm.trans held))
  | unchanged => exact exclusive

/-- A thread that is outside settles nothing. -/
theorem settled_outside (code : Code σ κ ℓ ρ) (system : System σ κ ℓ ρ θ) (thread : θ)
    (stage : Stage κ ℓ ρ) (exclusive : Exclusive system)
    (outside : ¬ (system.stage thread).Within) :
    settled code (system.move system.shared system.holder thread stage) =
      settled code system := by
  cases held : system.holder with
  | none => rw [settled_free code _ rfl, settled_free code _ held, move_shared]
  | some holder =>
    have apart : holder ≠ thread := by
      rintro rfl
      exact outside ((exclusive holder).mpr held)
    simp only [settled, move_holder, move_shared, held, move_other _ _ _ _ _ _ apart]

/-- A step settles what it enters, and its answer is the one that was owed. -/
theorem settled_step (code : Code σ κ ℓ ρ) (system : System σ κ ℓ ρ θ) (action : Action κ θ)
    (exclusive : Exclusive system) :
    (settled code (step code system action).1).1 =
        after (serialStep code) (settled code system).1 (entry ⟨system, action⟩).toList ∧
      (answer ⟨system, action⟩).toList ++ (settled code (step code system action).1).2 =
        (settled code system).2 ++
          replies (serialStep code) (settled code system).1 (entry ⟨system, action⟩).toList := by
  have effect := step_effect code system action
  generalize (step code system action).1 = next at effect ⊢
  generalize entry ⟨system, action⟩ = entered at effect ⊢
  generalize answer ⟨system, action⟩ = answered at effect ⊢
  cases effect with
  | called thread call idle =>
    rw [settled_outside code system thread _ exclusive (by rw [idle]; exact id)]
    simp [replies]
  | entered thread call free waits =>
    rw [settled_inside code _ thread (code.start call) rfl (move_self _ _ _ _ _),
      settled_free code system free]
    simp [replies, serialStep]
  | wentOn thread locals rest next inside went =>
    have held := (exclusive thread).mp (by rw [inside]; trivial)
    rw [settled_inside code (system.move _ _ _ _) thread rest held (move_self _ _ _ _ _),
      settled_inside code system thread locals held inside, whole_goes_on code _ _ _ _ went]
    simp [replies]
  | ended thread locals result next inside went =>
    have held := (exclusive thread).mp (by rw [inside]; trivial)
    rw [settled_leaving code (system.move _ _ _ _) thread result held (move_self _ _ _ _ _),
      settled_inside code system thread locals held inside, whole_ends code _ _ _ _ went]
    simp [replies]
  | left thread result leaves =>
    have held := (exclusive thread).mp (by rw [leaves]; trivial)
    rw [settled_free code _ rfl, settled_leaving code system thread result held leaves]
    simp [replies]
  | unchanged => simp [replies]

/-- In every state of a run, at most one thread is within, and it has the lock. -/
theorem run_exclusive (code : Code σ κ ℓ ρ) (shared : σ) (actions : List (Action κ θ)) :
    Exclusive (after (step code) (fresh shared) actions) :=
  invariant_after (step code) Exclusive (exclusive_kept code) _ actions (fresh_exclusive shared)

/-- The sections that a run enters, in order. -/
def entries (code : Code σ κ ℓ ρ) (shared : σ) (actions : List (Action κ θ)) : List (θ × κ) :=
  (trace (step code) (fresh shared) actions).filterMap entry

/-- The answers that a run gives, in order. -/
def answers (code : Code σ κ ℓ ρ) (shared : σ) (actions : List (Action κ θ)) : List (θ × ρ) :=
  (trace (step code) (fresh shared) actions).filterMap answer

/-- Every run is a serial one: settled, its state and its answers are those of its sections
executed whole, in the order of their entries.

Proof: by induction on the run, extended at its end. A section takes effect in the
settled state at its entry, and every later step leaves the settled state. -/
theorem run_serial (code : Code σ κ ℓ ρ) (shared : σ) (actions : List (Action κ θ)) :
    (settled code (after (step code) (fresh shared) actions)).1 =
        after (serialStep code) shared (entries code shared actions) ∧
      answers code shared actions ++ (settled code (after (step code) (fresh shared) actions)).2 =
        replies (serialStep code) shared (entries code shared actions) := by
  induction actions using List.reverseRecOn with
  | nil => exact ⟨rfl, rfl⟩
  | append_singleton earlier action inductionHypothesis =>
    obtain ⟨state, told⟩ := inductionHypothesis
    obtain ⟨next, owed⟩ := settled_step code (after (step code) (fresh shared) earlier) action
      (run_exclusive code shared earlier)
    have moreEntries : entries code shared (earlier ++ [action]) = entries code shared earlier ++
        (entry ⟨after (step code) (fresh shared) earlier, action⟩).toList := by
      simp only [entries, trace_append_singleton, List.filterMap_eq_flatMap_toList,
        List.flatMap_append, List.flatMap_singleton]
    have moreAnswers : answers code shared (earlier ++ [action]) = answers code shared earlier ++
        (answer ⟨after (step code) (fresh shared) earlier, action⟩).toList := by
      simp only [answers, trace_append_singleton, List.filterMap_eq_flatMap_toList,
        List.flatMap_append, List.flatMap_singleton]
    rw [after_append_singleton, moreEntries, moreAnswers, after_append, replies_append, ← state,
      ← told, List.append_assoc, List.append_assoc]
    exact ⟨next, congrArg (answers code shared earlier ++ ·) owed⟩

/-- The thread that has the lock can give it back by steps of its own.

Proof: by induction on the accesses that are left. -/
theorem holder_can_leave (code : Code σ κ ℓ ρ) (system : System σ κ ℓ ρ θ) (thread : θ)
    (within : (system.stage thread).Within) :
    ∃ actions shared, after (step code) system actions = system.move shared none thread .idle := by
  have leave (system : System σ κ ℓ ρ θ) (result : ρ)
      (leaves : system.stage thread = .leaving result) :
      (step code system (.leave thread)).1 = system.move system.shared none thread .idle := by
    simp only [step, leaves]
  cases stage : system.stage thread with
  | idle => exact absurd within (by rw [stage]; exact id)
  | waiting => exact absurd within (by rw [stage]; exact id)
  | leaving result => exact ⟨[.leave thread], _, leave system result stage⟩
  | inside locals =>
    induction remaining : code.left locals using Nat.strongRecOn generalizing system locals with
    | ind remaining inductionHypothesis =>
      rcases went : code.access system.shared locals with ⟨next, rest | result⟩
      · have moved : (step code system (.access thread)).1 =
            system.move next system.holder thread (.inside rest) := by
          simp only [step, stage, went]
        obtain ⟨actions, shared, left⟩ := inductionHypothesis (code.left rest)
          (remaining ▸ code.shrinks _ _ _ _ went)
          (system.move next system.holder thread (.inside rest))
          (by rw [move_self]; trivial) rest (move_self _ _ _ _ _) rfl
        refine ⟨.access thread :: actions, shared, ?_⟩
        rw [after_cons, moved, left, move_move]
      · have moved : (step code system (.access thread)).1 =
            system.move next system.holder thread (.leaving result) := by
          simp only [step, stage, went]
        refine ⟨[.access thread, .leave thread], next, ?_⟩
        rw [after_cons, moved, after_cons, leave _ result (move_self _ _ _ _ _), after_nil,
          move_move, move_shared]

/-- A lock that is free owes no answer. -/
theorem run_serial_free (code : Code σ κ ℓ ρ) (shared : σ) (actions : List (Action κ θ))
    (free : (after (step code) (fresh shared) actions).holder = none) :
    (after (step code) (fresh shared) actions).shared =
        after (serialStep code) shared (entries code shared actions) ∧
      answers code shared actions =
        replies (serialStep code) shared (entries code shared actions) := by
  have serial := run_serial code shared actions
  rwa [settled_free code _ free, List.append_nil] at serial

/-- Where the sections, executed whole, do what another system does at once, a run answers
as that system does, and has its state whenever the lock is free. -/
theorem run_refines {τ : Type*} (code : Code σ κ ℓ ρ) (atomic : τ → θ × κ → τ × (θ × ρ))
    (Related : σ → τ → Prop)
    (alike : ∀ state other entered, Related state other →
      (serialStep code state entered).2 = (atomic other entered).2 ∧
        Related (serialStep code state entered).1 (atomic other entered).1)
    (shared : σ) (other : τ) (related : Related shared other) (actions : List (Action κ θ)) :
    let final := after (step code) (fresh shared) actions
    let entered := entries code shared actions
    answers code shared actions ++ (settled code final).2 = replies atomic other entered ∧
      (final.holder = none → answers code shared actions = replies atomic other entered ∧
        Related final.shared (after atomic other entered)) := by
  intro final entered
  obtain ⟨same, reached⟩ := replies_refine (serialStep code) atomic (fun _ => True) Related
    (fun state other entered related _ => alike state other entered related) shared other related
    entered (fun _ _ => trivial)
  refine ⟨(run_serial code shared actions).2.trans same, fun free => ?_⟩
  obtain ⟨state, told⟩ := run_serial_free code shared actions free
  exact ⟨told.trans same, by rwa [state]⟩

/-- From every state in which the lock is held by whoever is within, every call can
return: no thread waits for ever for lack of a step. -/
theorem can_return (code : Code σ κ ℓ ρ) (system : System σ κ ℓ ρ θ) (exclusive : Exclusive system)
    (thread : θ) : ∃ actions, (after (step code) system actions).stage thread = .idle := by
  have enters (system : System σ κ ℓ ρ θ) (call : κ) (free : system.holder = none)
      (waits : system.stage thread = .waiting call) :
      ∃ actions, (after (step code) system actions).stage thread = .idle := by
    have entered : (step code system (.enter thread)).1 =
        system.move system.shared (some thread) thread (.inside (code.start call)) := by
      simp only [step, free, waits]
    obtain ⟨actions, shared, left⟩ := holder_can_leave code
      (system.move system.shared (some thread) thread (.inside (code.start call))) thread
      (by rw [move_self]; trivial)
    refine ⟨.enter thread :: actions, ?_⟩
    rw [after_cons, entered, left, move_self]
  have leaves (within : (system.stage thread).Within) :
      ∃ actions, (after (step code) system actions).stage thread = .idle := by
    obtain ⟨actions, shared, left⟩ := holder_can_leave code system thread within
    exact ⟨actions, by rw [left, move_self]⟩
  cases stage : system.stage thread with
  | idle => exact ⟨[], stage⟩
  | inside => exact leaves (by rw [stage]; trivial)
  | leaving => exact leaves (by rw [stage]; trivial)
  | waiting call =>
    cases held : system.holder with
    | none => exact enters system call held stage
    | some holder =>
      have within := (exclusive holder).mpr held
      have apart : thread ≠ holder := by
        rintro rfl
        rw [stage] at within
        exact within
      obtain ⟨first, shared, left⟩ := holder_can_leave code system holder within
      obtain ⟨second, returned⟩ := enters (system.move shared none holder .idle) call rfl
        (by rw [move_other _ _ _ _ _ _ apart, stage])
      refine ⟨first ++ second, ?_⟩
      rw [after_append, left, returned]

section Family

variable {ι : Type*} [DecidableEq ι]

/-- A step of one of several systems, each with a lock of its own. -/
def familyStep (code : Code σ κ ℓ ρ) (systems : ι → System σ κ ℓ ρ θ)
    (action : ι × Action κ θ) : (ι → System σ κ ℓ ρ θ) × Option ρ :=
  let (next, result) := step code (systems action.1) action.2
  (Function.update systems action.1 next, result)

/-- The actions on one of the systems. -/
def actionsOn (index : ι) (actions : List (ι × Action κ θ)) : List (Action κ θ) :=
  actions.filterMap fun action => if action.1 = index then some action.2 else none

/-- Each system runs as if the others were not there. -/
theorem family_component (code : Code σ κ ℓ ρ) (systems : ι → System σ κ ℓ ρ θ)
    (actions : List (ι × Action κ θ)) (index : ι) :
    after (familyStep code) systems actions index =
      after (step code) (systems index) (actionsOn index actions) := by
  induction actions generalizing systems with
  | nil => rfl
  | cons action later inductionHypothesis =>
    rw [after_cons, inductionHypothesis]
    by_cases here : action.1 = index
    · have first : actionsOn index (action :: later) = action.2 :: actionsOn index later := by
        simp only [actionsOn, List.filterMap_cons, if_pos here]
      simp only [first, after_cons, familyStep, here, Function.update_self]
    · have first : actionsOn index (action :: later) = actionsOn index later := by
        simp only [actionsOn, List.filterMap_cons, if_neg here]
      simp only [first, familyStep, Function.update_of_ne (Ne.symm here)]

end Family

end LddExamples.LockedSections
