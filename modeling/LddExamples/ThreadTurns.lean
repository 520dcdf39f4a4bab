import LddExamples.KernelThreads
import Mathlib.Algebra.BigOperators.Group.Finset.Basic
import Mathlib.Algebra.Order.BigOperators.Group.Finset
import Mathlib.Data.Fintype.Basic

/-!
# The turns of kernel threads

What the turns of a module's threads keep, together with how often each thread has ended one,
and how a module gets to its end. A discipline says that of all threads that are in a turn one
can go on; then all of them can end their turns, the threads that are told to stop return,
and the module that waits for them is unloaded.
-/

namespace LddExamples.ThreadTurns

open Runs KernelThreads

universe u v w
variable {σ : Type u} {ι : Type v} {ℓ : Type w} [DecidableEq ι]

variable (module : Module ι) (succeeds : ι → Bool) (body : Body σ ι ℓ)

/-- One more turn of a thread, if it has ended one. -/
def tallied (turns : ι → Nat) (thread : ι) (ended : Bool) : ι → Nat :=
  if ended then Function.update turns thread (turns thread + 1) else turns

/-- What the threads that are in a turn keep, by the turns that have been ended. Every access
keeps it, and if a thread is in a turn, then one that is can go on. -/
structure Discipline (body : Body σ ι ℓ) where
  Holds : (ι → Nat) → σ → (ι → Option ℓ) → Prop
  begins : ∀ turns shared work thread, Holds turns shared work → work thread = none →
    Holds turns shared (Function.update work thread (some (body.start thread)))
  goesOn : ∀ turns shared work thread locals next rest, Holds turns shared work →
    work thread = some locals → body.act thread shared locals = .goesOn next rest →
      Holds turns next (Function.update work thread (some rest))
  ends : ∀ turns shared work thread locals next, Holds turns shared work →
    work thread = some locals → body.act thread shared locals = .ends next →
      Holds (tallied turns thread true) next (Function.update work thread none)
  live : ∀ turns shared work thread locals, Holds turns shared work →
    work thread = some locals →
      ∃ other rest, work other = some rest ∧ body.act other shared rest ≠ .blocked

variable {body} (discipline : Discipline body)

/-- The discipline holds in a state of the system. -/
def Discipline.In (turns : ι → Nat) (system : System σ ι ℓ) : Prop :=
  discipline.Holds turns system.shared system.work

/-- A slot that is replaced. -/
theorem work_update (slot : ι → Slot ℓ) (thread : ι) (next : Slot ℓ) (shared : σ)
    (control : Control ι) :
    (⟨shared, Function.update slot thread next, control⟩ : System σ ι ℓ).work =
      Function.update (fun thread => (slot thread).work) thread next.work :=
  Function.comp_update Slot.work slot thread next

theorem move_work (system : System σ ι ℓ) (shared : σ) (thread : ι) (place : Place ℓ)
    (stop : Bool) : (system.move shared thread place stop).work =
      Function.update system.work thread (Slot.task place stop).work :=
  work_update _ _ _ _ _

/-- Steps of the threads keep the discipline. -/
theorem discipline_thread (turns : ι → Nat) (system : System σ ι ℓ) (thread : ι)
    (holds : discipline.In turns system) :
    discipline.In (tallied turns thread (endsTurn body system thread))
      (runThread body system thread) := by
  have effect := run_thread_effect body system thread
  generalize endsTurn body system thread = turned at effect ⊢
  generalize runThread body system thread = after at effect ⊢
  have works (place : Place ℓ) (stop : Bool) (slot : system.slot thread = .task place stop) :
      system.work thread = (Slot.task place stop).work := by
    rw [System.work, slot]
  have idle (place : Place ℓ) (stop : Bool) (here : system.work thread = none)
      (there : (Slot.task place stop).work = none) :
      discipline.In turns (system.move system.shared thread place stop) := by
    rw [Discipline.In, move_work, there, ← here, Function.update_eq_self]
    exact holds
  cases effect with
  | returned place slot resting => exact idle _ _ ((works place true slot).trans resting) rfl
  | began slot =>
    rw [Discipline.In, move_work]
    exact discipline.begins turns _ _ thread holds (works _ _ slot)
  | wentOn locals rest next stop slot turn =>
    rw [Discipline.In, move_work]
    exact discipline.goesOn turns _ _ thread locals next rest holds (works _ _ slot) turn
  | ended locals next stop slot turn =>
    rw [Discipline.In, move_work]
    exact discipline.ends turns _ _ thread locals next holds (works _ _ slot) turn
  | awoke stop slot => exact idle _ _ (works _ _ slot) rfl
  | stays => exact holds

/-- An operation that does not replace a thread leaves its turn. -/
theorem execute_work (operation : Operation) (succeeds : Bool) (slot next : Slot ℓ)
    (done : operation.execute succeeds slot = some next)
    (fresh : operation.creates = true → slot = .null) : next.work = slot.work := by
  have woken (place : Place ℓ) (stop : Bool) :
      (Slot.task place.woken stop).work = (Slot.task place stop).work := by
    cases place <;> rfl
  cases operation with
  | kthreadCreate | kthreadRun =>
    obtain rfl := fresh rfl
    rw [← Option.some.inj done]
    cases succeeds <;> rfl
  | wakeUpProcess =>
    cases slot with
    | task place stop =>
      rw [← Option.some.inj done]
      exact woken place stop
    | null | error => simp [Operation.execute] at done
  | wakeOrClear =>
    cases slot with
    | task place stop =>
      rw [← Option.some.inj done]
      exact woken place stop
    | error =>
      rw [← Option.some.inj done]
      rfl
    | null => simp [Operation.execute] at done
  | clearError =>
    cases slot with
    | null | error | task =>
      obtain rfl := Option.some.inj done
      rfl

/-- The first operation on a pointer finds it null. -/
theorem fresh_slot (system : System σ ι ℓ) (thread : ι) (operation : Operation)
    (executed rest : List (ι × Operation))
    (all : executed ++ (thread, operation) :: rest = module.init)
    (kinds : ∀ thread, pointer (succeeds thread) (operationsOn thread executed) =
      some (system.slot thread).kind)
    (creates : operation.creates = true) : system.slot thread = .null := by
  have once := module.once thread operation
  rw [← all, operations_on_append, operations_on_same] at once
  have kind := kinds thread
  cases earlier : operationsOn thread executed with
  | nil =>
    rw [earlier] at kind
    cases slot : system.slot thread with
    | null => rfl
    | error | task =>
      rw [slot] at kind
      exact absurd (Option.some.inj kind) (by simp [Slot.kind])
  | cons first later =>
    rw [earlier, List.cons_append, List.tail_cons] at once
    have again := once (List.mem_append_right _ List.mem_cons_self)
    rw [creates] at again
    exact absurd again (by simp)

/-- Steps of the module's own code leave the turns and what the threads share. -/
theorem advance_keeps (system : System σ ι ℓ) (reached : Reached module succeeds system) :
    (advance succeeds system).shared = system.shared ∧
      (advance succeeds system).work = system.work := by
  have effect := advance_effect succeeds system
  generalize advance succeeds system = after at effect ⊢
  have replaced (thread : ι) (next : Slot ℓ) (same : next.work = (system.slot thread).work)
      (control : Control ι) :
      (⟨system.shared, Function.update system.slot thread next, control⟩ : System σ ι ℓ).work =
        system.work := by
    rw [work_update, same]
    exact Function.update_eq_self _ _
  cases effect with
  | executed thread operation rest next control done =>
    simp only [Reached, control] at reached
    obtain ⟨executed, all, kinds⟩ := reached
    refine ⟨rfl, replaced thread next ?_ _⟩
    exact execute_work operation _ _ next done
      (fresh_slot module succeeds system thread operation executed rest all kinds)
  | told thread rest place stop control slot =>
    refine ⟨rfl, replaced thread _ ?_ _⟩
    rw [slot]
    cases place <;> rfl
  | failed | passed | stoppedError | joined | stays => exact ⟨rfl, rfl⟩

/-- Every step keeps the discipline, with the turn that it ends. -/
theorem discipline_kept (turns : ι → Nat) (system : System σ ι ℓ) (action : Action ι)
    (reached : Reached module succeeds system) (holds : discipline.In turns system) :
    discipline.In ((endedTurn body ⟨system, action⟩).elim turns (tallied turns · true))
      (step module succeeds body system action).1 := by
  cases action with
  | thread thread =>
    have kept := discipline_thread discipline turns system thread holds
    simp only [step, endedTurn]
    cases turned : endsTurn body system thread with
    | true => rwa [turned] at kept
    | false => rwa [turned] at kept
  | advance =>
    obtain ⟨shared, work⟩ := advance_keeps module succeeds system reached
    simp only [step, endedTurn, Discipline.In, shared, work, Option.elim_none]
    exact holds
  | unload =>
    simp only [step]
    split <;> exact holds

/-- The turns that a thread has ended. -/
def turnsIn (body : Body σ ι ℓ) (events : List (Event (System σ ι ℓ) (Action ι))) (thread : ι) :
    Nat :=
  (events.filterMap (endedTurn body)).count thread

/-- One more event is one more turn, or none. -/
theorem turns_append_singleton (events : List (Event (System σ ι ℓ) (Action ι)))
    (event : Event (System σ ι ℓ) (Action ι)) :
    turnsIn body (events ++ [event]) =
      (endedTurn body event).elim (turnsIn body events) (tallied (turnsIn body events) · true) := by
  funext thread
  cases turned : endedTurn body event with
  | none => simp [turnsIn, turned]
  | some other =>
    by_cases same : thread = other
    · simp [turnsIn, tallied, turned, same]
    · simp [turnsIn, tallied, turned, same, Ne.symm same]

/-- In every state of a run, the discipline holds with the turns that have been ended. -/
theorem run_discipline (shared : σ) (holds : discipline.Holds (fun _ => 0) shared fun _ => none)
    (actions : List (Action ι)) :
    discipline.In (turnsIn body (trace (step module succeeds body) (start module shared) actions))
      (after (step module succeeds body) (start module shared) actions) := by
  induction actions using List.reverseRecOn with
  | nil => exact holds
  | append_singleton earlier action inductionHypothesis =>
    rw [trace_append_singleton, turns_append_singleton, after_append_singleton]
    exact discipline_kept module succeeds discipline _ _ action
      (run_reached module succeeds body shared earlier) inductionHypothesis

/-- The pointers are what they should be, and the discipline holds with some turns ended. -/
def Sound (system : System σ ι ℓ) : Prop :=
  Reached module succeeds system ∧ ∃ turns, discipline.In turns system

/-- A sound system stays sound. -/
theorem sound_after (system : System σ ι ℓ) (actions : List (Action ι))
    (sound : Sound module succeeds discipline system) :
    Sound module succeeds discipline (after (step module succeeds body) system actions) := by
  refine invariant_after _ (Sound module succeeds discipline) ?_ _ actions sound
  rintro state action ⟨reached, turns, holds⟩
  exact ⟨reached_kept module succeeds body state action reached, _,
    discipline_kept module succeeds discipline turns state action reached holds⟩

/-- A thread that is told to stop and is in no turn returns, and the module that waits for
it goes on. -/
theorem resting_joins (system : System σ ι ℓ) (thread : ι) (rest : List ι) (place : Place ℓ)
    (control : system.control = .waiting thread rest)
    (told : system.slot thread = .task place true) (idle : system.work thread = none) :
    ∃ more, (after (step module succeeds body) system more).control = .unloading rest := by
  have returns (system : System σ ι ℓ) (place : Place ℓ)
      (control : system.control = .waiting thread rest)
      (told : system.slot thread = .task place true) (near : place = .created ∨ place = .testing) :
      ∃ more, (after (step module succeeds body) system more).control = .unloading rest := by
    refine ⟨[.thread thread, .advance], ?_⟩
    have gone : runThread body system thread = system.move system.shared thread .gone true := by
      rcases near with rfl | rfl <;> simp only [runThread, told]
    have waits : (system.move system.shared thread .gone true).control = .waiting thread rest :=
      control
    simp only [after_cons, after_nil, step, gone, advance, waits, move_self]
  cases place with
  | created => exact returns system .created control told (Or.inl rfl)
  | testing => exact returns system .testing control told (Or.inr rfl)
  | working locals =>
    rw [System.work, told] at idle
    exact absurd idle (by simp [Slot.work])
  | sleeping =>
    have awake : runThread body system thread = system.move system.shared thread .testing true := by
      simp only [runThread, told]
    obtain ⟨more, joined⟩ := returns (system.move system.shared thread .testing true) .testing
      control (move_self _ _ _ _ _) (Or.inr rfl)
    refine ⟨.thread thread :: more, ?_⟩
    simpa only [after_cons, step, awake] using joined
  | gone =>
    refine ⟨[.advance], ?_⟩
    simp only [after_cons, after_nil, step, advance, control, told]

/-- The module is gone, or has crashed. -/
def Finished (system : System σ ι ℓ) : Prop :=
  system.control = .unloading [] ∨ system.control = .crashed

/-- A run that is continued by two others. -/
theorem continued (system : System σ ι ℓ) (first second : List (Action ι))
    (Goal : System σ ι ℓ → Prop)
    (reaches : Goal (after (step module succeeds body) (after (step module succeeds body) system
      first) second)) : ∃ more, Goal (after (step module succeeds body) system more) :=
  ⟨first ++ second, by rwa [after_append]⟩

/-- An init can be brought to its end.

Proof: by induction on the operations that it has not executed. -/
theorem init_finishes (system : System σ ι ℓ) (rest : List (ι × Operation))
    (control : system.control = .loading rest) :
    ∃ more, (after (step module succeeds body) system more).control = .loading [] ∨
      (after (step module succeeds body) system more).control = .crashed := by
  induction rest generalizing system with
  | nil => exact ⟨[], Or.inl control⟩
  | cons statement rest inductionHypothesis =>
    obtain ⟨thread, operation⟩ := statement
    cases done : operation.execute (succeeds thread) (system.slot thread) with
    | none =>
      refine ⟨[.advance], Or.inr ?_⟩
      simp only [after_cons, after_nil, step, advance, control, done]
    | some next =>
      have reaches : (after (step module succeeds body) system [.advance]).control =
          .loading rest := by
        simp only [after_cons, after_nil, step, advance, control, done]
      obtain ⟨second, finished⟩ := inductionHypothesis _ reaches
      exact ⟨.advance :: second, finished⟩

section Progress

variable [Fintype ι]

/-- The accesses that the turns have left, at most. -/
def workLeft (body : Body σ ι ℓ) (work : ι → Option ℓ) : Nat :=
  ∑ thread, ((work thread).map fun locals => body.left locals + 1).getD 0

/-- A turn that gets shorter leaves less. -/
theorem work_shrinks (work : ι → Option ℓ) (thread : ι) (locals : ℓ) (next : Option ℓ)
    (busy : work thread = some locals)
    (shorter : (next.map fun locals => body.left locals + 1).getD 0 < body.left locals + 1) :
    workLeft body (Function.update work thread next) < workLeft body work := by
  apply Finset.sum_lt_sum
  · intro other _
    by_cases same : other = thread
    · subst same
      rw [Function.update_self, busy]
      exact Nat.le_of_lt shorter
    · rw [Function.update_of_ne same]
  · refine ⟨thread, Finset.mem_univ _, ?_⟩
    rw [Function.update_self, busy]
    exact shorter

/-- An access that is not blocked leaves less. -/
theorem access_shrinks (system : System σ ι ℓ) (thread : ι) (locals : ℓ)
    (works : system.work thread = some locals)
    (free : body.act thread system.shared locals ≠ .blocked) :
    workLeft body (runThread body system thread).work < workLeft body system.work := by
  obtain ⟨stop, slot⟩ := slot_of_work (system.slot thread) locals works
  cases turn : body.act thread system.shared locals with
  | blocked => exact absurd turn free
  | goesOn next rest =>
    simp only [runThread, slot, turn, move_work]
    apply work_shrinks system.work thread locals _ works
    have shrinks := body.shrinks thread system.shared locals next rest turn
    simpa [Slot.work] using shrinks
  | ends next =>
    simp only [runThread, slot, turn, move_work]
    exact work_shrinks system.work thread locals _ works (by simp [Slot.work])

/-- The threads can bring all their turns to an end, while the module's own code waits.

Proof: by induction on the accesses that are left. If a thread is in a turn, one of them can
go on, and its access leaves less. -/
theorem threads_rest (turns : ι → Nat) (system : System σ ι ℓ)
    (holds : discipline.In turns system) :
    ∃ threads : List ι, ∃ next,
      after (step module succeeds body) system (threads.map .thread) = next ∧
        next.control = system.control ∧
        (∀ thread, (system.slot thread).Goes (next.slot thread)) ∧
        ∀ thread, next.work thread = none := by
  induction remaining : workLeft body system.work using Nat.strongRecOn
    generalizing turns system with
  | ind remaining inductionHypothesis =>
    by_cases resting : ∀ thread, system.work thread = none
    · exact ⟨[], system, rfl, rfl, fun _ => goes_refl _, resting⟩
    · obtain ⟨thread, busy⟩ := not_forall.mp resting
      obtain ⟨locals, working⟩ := Option.ne_none_iff_exists'.mp busy
      obtain ⟨other, rest, works, free⟩ := discipline.live _ _ _ thread locals holds working
      have goes := run_thread_goes body system other
      have kept := discipline_thread discipline turns system other holds
      have shorter := access_shrinks system other rest works free
      obtain ⟨threads, next, reaches, control, onward, none⟩ :=
        inductionHypothesis _ (remaining ▸ shorter) _ _ kept rfl
      refine ⟨other :: threads, next, reaches, control.trans goes.1, fun thread => ?_, none⟩
      exact goes_trans _ _ _ (goes.2 thread) (onward thread)

/-- Whatever turn the thread is in, the module that waits for it can go on. -/
theorem waiting_joins (system : System σ ι ℓ) (thread : ι) (rest : List ι) (place : Place ℓ)
    (control : system.control = .waiting thread rest)
    (told : system.slot thread = .task place true) (holds : ∃ turns, discipline.In turns system) :
    ∃ more, (after (step module succeeds body) system more).control = .unloading rest := by
  obtain ⟨turns, holds⟩ := holds
  obtain ⟨threads, next, reaches, same, goes, idle⟩ :=
    threads_rest module succeeds discipline turns system holds
  obtain ⟨later, still⟩ := goes_told _ _ (goes thread) place true told
  obtain ⟨more, joined⟩ := resting_joins module succeeds next thread rest later
    (same.trans control) still (idle thread)
  refine ⟨threads.map .thread ++ more, ?_⟩
  rw [after_append, reaches, joined]

/-- An exit can be brought to its end.

Proof: by induction on the pointers that it has not looked at. -/
theorem exit_finishes (system : System σ ι ℓ) (rest : List ι)
    (control : system.control = .unloading rest)
    (sound : Sound module succeeds discipline system) :
    ∃ more, Finished (after (step module succeeds body) system more) := by
  induction rest generalizing system with
  | nil => exact ⟨[], Or.inl control⟩
  | cons thread rest inductionHypothesis =>
    have kept := sound_after module succeeds discipline system
    have onward (first : List (Action ι))
        (reaches : (after (step module succeeds body) system first).control = .unloading rest) :
        ∃ more, Finished (after (step module succeeds body) system more) := by
      obtain ⟨second, finished⟩ := inductionHypothesis _ reaches (kept first sound)
      exact continued module succeeds system first second Finished finished
    cases slot : system.slot thread with
    | null =>
      refine onward [.advance] ?_
      simp only [after_cons, after_nil, step, advance, control, slot]
    | error =>
      refine ⟨[.advance], Or.inr ?_⟩
      simp only [after_cons, after_nil, step, advance, control, slot]
    | task place stop =>
      have told : after (step module succeeds body) system [.advance] =
          ⟨system.shared, Function.update system.slot thread (.task place true),
            .waiting thread rest⟩ := by
        simp only [after_cons, after_nil, step, advance, control, slot]
      have waits := (kept [.advance] sound).2
      rw [told] at waits
      obtain ⟨second, joined⟩ := waiting_joins module succeeds discipline _ thread rest place rfl
        (Function.update_self _ _ _) waits
      refine onward (.advance :: second) ?_
      rw [← List.singleton_append, after_append, told, joined]

/-- From every sound state, the module can get to the end of its exit or to a crash. -/
theorem can_finish (system : System σ ι ℓ) (sound : Sound module succeeds discipline system) :
    ∃ more, Finished (after (step module succeeds body) system more) := by
  have kept := sound_after module succeeds discipline system
  have exits (first : List (Action ι)) (rest : List ι)
      (control : (after (step module succeeds body) system first).control = .unloading rest) :
      ∃ more, Finished (after (step module succeeds body) system more) := by
    obtain ⟨second, finished⟩ := exit_finishes module succeeds discipline _ rest control
      (kept first sound)
    exact continued module succeeds system first second Finished finished
  cases control : system.control with
  | crashed => exact ⟨[], Or.inr control⟩
  | unloading rest => exact exits [] rest control
  | waiting thread rest =>
    have reached := sound.1
    simp only [Reached, control] at reached
    obtain ⟨_, _, place, told⟩ := reached
    obtain ⟨first, joined⟩ := waiting_joins module succeeds discipline system thread rest place
      control told sound.2
    exact exits first rest joined
  | loading rest =>
    have loads : ∃ more, (after (step module succeeds body) system more).control = .loading [] ∨
        (after (step module succeeds body) system more).control = .crashed :=
      init_finishes module succeeds system rest control
    obtain ⟨first, loaded | crashed⟩ := loads
    · refine exits (first ++ [.unload]) module.exit ?_
      simp only [after_append, after_cons, after_nil, step, loaded]
    · exact ⟨first, Or.inr crashed⟩

end Progress

section Finishing

variable (shared : σ) (actions : List (Action ι)) [Fintype ι]

/-- The module can be unloaded exactly if its pointers are safe; then no run crashes, and
else every run can. -/
theorem run_finishes (holds : discipline.Holds (fun _ => 0) shared fun _ => none) :
    let final := after (step module succeeds body) (start module shared) actions
    ((∀ thread, ¬ Unsafe module succeeds thread) → final.control ≠ .crashed ∧
        ∃ more, (after (step module succeeds body) final more).control = .unloading []) ∧
      ((∃ thread, Unsafe module succeeds thread) → final.control ≠ .unloading [] ∧
        ∃ more, (after (step module succeeds body) final more).control = .crashed) := by
  intro final
  have sound := sound_after module succeeds discipline (start module shared) actions
    ⟨⟨[], rfl, fun _ => rfl⟩, _, holds⟩
  obtain ⟨more, finished⟩ := can_finish module succeeds discipline final sound
  have joined : after (step module succeeds body) final more =
      after (step module succeeds body) (start module shared) (actions ++ more) :=
    (after_append _ _ _ _).symm
  refine ⟨fun safe => ⟨fun crashed => ?_, more, ?_⟩, fun crashes => ⟨fun unloaded => ?_, more, ?_⟩⟩
  · obtain ⟨thread, crashes⟩ := crashed_unsafe module succeeds body shared actions crashed
    exact safe thread crashes
  · rcases finished with unloaded | crashed
    · exact unloaded
    · rw [joined] at crashed
      obtain ⟨thread, crashes⟩ := crashed_unsafe module succeeds body shared _ crashed
      exact absurd crashes (safe thread)
  · obtain ⟨thread, crashes⟩ := crashes
    exact (unloaded_ended module succeeds body shared actions unloaded).1 thread crashes
  · rcases finished with unloaded | crashed
    · rw [joined] at unloaded
      obtain ⟨thread, crashes⟩ := crashes
      exact absurd crashes ((unloaded_ended module succeeds body shared _ unloaded).1 thread)
    · exact crashed

end Finishing

end LddExamples.ThreadTurns
