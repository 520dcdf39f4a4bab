import LddExamples.KernelInterface
import LddExamples.ThreadTurns

/-!
# Three modules with two threads

`026_kthread/thread.c`, `023_katomic/atomic.c` and `001_driver_misc/kThread.c`. The first one
looks at what its creations return; the others do not. The threads of the first only print,
those of the second add to and subtract from an atomic counter, and those of the third
increment a counter under a mutex, which they load and store one after the other.

What the threads print is left out.
-/

namespace LddExamples.ThreadModules

open Runs KernelInterface KernelThreads ThreadTurns

/-- The two pointers that each of the modules has. -/
inductive Name where
  | thread1
  | thread2
deriving DecidableEq

instance : Fintype Name where
  elems := {.thread1, .thread2}
  complete := by
    intro name
    cases name <;> decide

section Unloading

universe u w
variable {σ : Type u} {ℓ : Type w} (module : Module Name) (succeeds : Name → Bool)
  (body : Body σ Name ℓ)

/-- The module is gone, and nothing happens any more. -/
def Quiet (system : System σ Name ℓ) : Prop :=
  (∀ thread, (system.slot thread).Ended) ∧
    ∀ more, after (step module succeeds body) system more = system

/-- A module that stops both threads is quiet once it is unloaded. -/
theorem unloaded_quiet (both : ∀ thread, thread ∈ module.exit) (shared : σ)
    (actions : List (KernelThreads.Action Name))
    (unloaded : (after (step module succeeds body) (start module shared) actions).control =
      .unloading []) :
    Quiet module succeeds body (after (step module succeeds body) (start module shared)
      actions) := by
  have ended := (unloaded_ended module succeeds body shared actions unloaded).2
  exact ⟨fun thread => ended thread (both thread), ended_quiet module succeeds body _ unloaded
    fun thread => ended thread (both thread)⟩

/-- A module that looks at neither of its pointers is unloaded exactly if both threads could
be created. -/
theorem unchecked_finishes (discipline : Discipline body)
    (unchecked : ∀ thread, Unsafe module succeeds thread ↔ succeeds thread = false) (shared : σ)
    (actions : List (KernelThreads.Action Name))
    (holds : discipline.Holds (fun _ => 0) shared fun _ => none) :
    let final := after (step module succeeds body) (start module shared) actions
    ((∀ thread, succeeds thread = true) → final.control ≠ .crashed ∧
        ∃ more, (after (step module succeeds body) final more).control = .unloading []) ∧
      (¬ (∀ thread, succeeds thread = true) → final.control ≠ .unloading [] ∧
        ∃ more, (after (step module succeeds body) final more).control = .crashed) := by
  intro final
  obtain ⟨safe, crashes⟩ := run_finishes module succeeds discipline shared actions holds
  refine ⟨fun both => safe fun thread => ?_, fun failed => crashes ?_⟩
  · rw [unchecked thread, both thread]
    simp
  · obtain ⟨thread, fails⟩ := not_forall.mp failed
    exact ⟨thread, (unchecked thread).mpr (Bool.eq_false_iff.mpr fails)⟩

end Unloading

section Printing

/-- `026_kthread/thread.c` -/
def threadInit : List (Name × Operation) :=
  [(.thread1, .kthreadCreate), (.thread1, .wakeOrClear),
    (.thread2, .kthreadRun), (.thread2, .clearError)]

/-- The first module, with what its unloading stops. -/
def threadModule : Module Name := ⟨threadInit, [.thread1, .thread2], by decide⟩

/-- `thread_fn1` and `thread_fn2` -/
def threadFn : Body Unit Name Unit where
  start _ := ()
  act _ _ _ := .ends ()
  left _ := 0
  shrinks := by
    intro _ _ _ _ _ went
    cases went

/-- Threads that only print keep nothing, and can always go on. -/
def printing : Discipline threadFn where
  Holds _ _ _ := True
  begins _ _ _ _ _ _ := trivial
  goesOn _ _ _ _ _ _ _ _ _ _ := trivial
  ends _ _ _ _ _ _ _ _ _ := trivial
  live _ _ _ thread locals _ works := ⟨thread, locals, works, by simp [threadFn]⟩

/-- A pointer to a thread that does not sleep is one to a woken thread. -/
theorem woken_or_null {ℓ : Type} (slot : Slot ℓ) (created : Bool)
    (kind : slot.kind = if created then .task else .null) (awake : ¬ slot.Asleep) :
    if created then ∃ place stop, slot = .task place stop ∧ place ≠ .created else slot = .null := by
  cases created with
  | false =>
    cases slot with
    | null => rfl
    | error | task => cases kind
  | true =>
    cases slot with
    | null | error => cases kind
    | task place stop =>
      refine ⟨place, stop, rfl, fun sleeps => awake ⟨stop, by rw [sleeps]⟩⟩

/-- Whichever creations fail, no run crashes; a loaded module has woken every thread that
could be created, and has null for the others; the module can always be unloaded, and then
neither thread takes a step again. -/
theorem thread_demo_unloads (succeeds : Name → Bool) (actions : List (KernelThreads.Action Name)) :
    let final := after (step threadModule succeeds threadFn) (start threadModule ()) actions
    final.control ≠ .crashed ∧
      (final.control = .loading [] → ∀ thread,
        if succeeds thread then ∃ place stop, final.slot thread = .task place stop ∧
          place ≠ .created
        else final.slot thread = .null) ∧
      (final.control = .unloading [] → Quiet threadModule succeeds threadFn final) ∧
      ∃ more, (after (step threadModule succeeds threadFn) final more).control =
        .unloading [] := by
  intro final
  have pointers (thread : Name) :
      pointer (succeeds thread) (operationsOn thread threadModule.init) =
        some (if succeeds thread then .task else .null) := by
    cases thread <;> cases succeeds _ <;> rfl
  have safe (thread : Name) : ¬ Unsafe threadModule succeeds thread := by
    rw [Unsafe, pointers thread]
    cases succeeds thread <;> simp
  have finishes := (run_finishes threadModule succeeds printing () actions trivial).1 safe
  refine ⟨finishes.1, fun loaded thread => ?_, ?_, finishes.2⟩
  · have kinds := loaded_kinds threadModule succeeds threadFn () actions loaded thread
    have kind : (final.slot thread).kind = if succeeds thread then .task else .null :=
      Option.some.inj (kinds.symm.trans (pointers thread))
    have awake := loaded_awake threadModule succeeds threadFn () actions loaded thread
      (by cases thread <;> rfl)
    exact woken_or_null _ _ kind awake
  · exact unloaded_quiet threadModule succeeds threadFn (by decide) () actions

end Printing

section Atomic

/-- `023_katomic/atomic.c` -/
def atomicInit : List (Name × Operation) := [(.thread1, .kthreadRun), (.thread2, .kthreadRun)]

/-- The second module. -/
def atomicModule : Module Name := ⟨atomicInit, [.thread1, .thread2], by decide⟩

/-- What a turn of `inc_thread` adds, and one of `dec_thread`. -/
def amount : Name → Int
  | .thread1 => 1
  | .thread2 => -1

/-- `inc_thread` and `dec_thread` -/
def atomicFn : Body Int Name Unit where
  start _ := ()
  act thread counter _ := .ends (wrapSigned 32 (counter + amount thread))
  left _ := 0
  shrinks := by
    intro _ _ _ _ _ went
    cases went

/-- A counter that has wrapped counts on as if it had not. -/
theorem wrap_add (total amount : Int) :
    wrapSigned 32 (wrapSigned 32 total + amount) = wrapSigned 32 (total + amount) :=
  Int.bmod_add_bmod

/-- The counter is the increments less the decrements, as far as an int holds it. -/
def counting : Discipline atomicFn where
  Holds turns counter _ := counter = wrapSigned 32 (turns .thread1 - turns .thread2)
  begins _ _ _ _ holds _ := holds
  goesOn := by
    intro _ _ _ _ _ _ _ _ _ went
    cases went
  ends := by
    intro turns counter work thread _ next holds _ ended
    rw [← Turn.ends.inj ended, holds, wrap_add]
    apply congrArg (wrapSigned 32)
    cases thread <;> simp [tallied, amount] <;> omega
  live _ _ _ thread locals _ works := ⟨thread, locals, works, by simp [atomicFn]⟩

/-- The counter is in every state of a run the turns of the one thread less those of the
other, as far as an int holds it. If both threads could be created, no run crashes, and the
module can always be unloaded; if not, it cannot be, and every run can get to the crash. Once
it is unloaded, nothing happens any more. -/
theorem atomic_demo_counts (succeeds : Name → Bool) (actions : List (KernelThreads.Action Name)) :
    let run := trace (step atomicModule succeeds atomicFn) (start atomicModule 0) actions
    let final := after (step atomicModule succeeds atomicFn) (start atomicModule 0) actions
    final.shared =
        wrapSigned 32 (turnsIn atomicFn run .thread1 - turnsIn atomicFn run .thread2) ∧
      ((∀ thread, succeeds thread = true) → final.control ≠ .crashed ∧
        ∃ more, (after (step atomicModule succeeds atomicFn) final more).control =
          .unloading []) ∧
      (¬ (∀ thread, succeeds thread = true) → final.control ≠ .unloading [] ∧
        ∃ more, (after (step atomicModule succeeds atomicFn) final more).control = .crashed) ∧
      (final.control = .unloading [] → Quiet atomicModule succeeds atomicFn final) := by
  intro run final
  have pointers (thread : Name) :
      Unsafe atomicModule succeeds thread ↔ succeeds thread = false := by
    cases thread <;> cases succeeded : succeeds _ <;> simp [Unsafe, succeeded] <;> decide
  have zero : (0 : Int) = wrapSigned 32 ((0 : Nat) - (0 : Nat)) := by decide
  obtain ⟨both, failed⟩ := unchecked_finishes atomicModule succeeds atomicFn counting pointers 0
    actions zero
  exact ⟨run_discipline atomicModule succeeds counting 0 zero actions, both, failed,
    unloaded_quiet atomicModule succeeds atomicFn (by decide) 0 actions⟩

end Atomic

section Mutex

/-- `001_driver_misc/kThread.c` -/
def kThreadInit : List (Name × Operation) :=
  [(.thread1, .kthreadCreate), (.thread1, .wakeUpProcess), (.thread2, .kthreadRun)]

/-- The third module. -/
def kThreadModule : Module Name := ⟨kThreadInit, [.thread1, .thread2], by decide⟩

/-- The counter, and the thread that has the mutex. -/
structure Shared where
  counter : Int
  lock : Option Name
deriving DecidableEq

/-- What a turn does next, with the counter that it has loaded. -/
inductive Locals where
  | mutexLock
  | load
  | store (counter : Int)
  | mutexUnlock
deriving DecidableEq

/-- One access of a turn: the mutex is taken when it is free, the counter is loaded, stored
one higher, and the mutex given back. -/
def workerAct (thread : Name) (shared : Shared) : Locals → Turn Shared Locals
  | .mutexLock =>
      match shared.lock with
      | none => .goesOn { shared with lock := some thread } .load
      | some _ => .blocked
  | .load => .goesOn shared (.store shared.counter)
  | .store counter => .goesOn { shared with counter := wrapSigned 32 (counter + 1) } .mutexUnlock
  | .mutexUnlock => .ends { shared with lock := none }

/-- The accesses that a turn has left. -/
def Locals.left : Locals → Nat
  | .mutexLock => 3
  | .load => 2
  | .store _ => 1
  | .mutexUnlock => 0

/-- The turns of both threads of the third module. -/
def worker : Body Shared Name Locals where
  start _ := .mutexLock
  act := workerAct
  left := Locals.left
  shrinks := by
    intro thread shared locals next rest went
    cases locals with
    | mutexLock =>
      simp only [workerAct] at went
      split at went
      · obtain ⟨_, rfl⟩ := Turn.goesOn.inj went
        exact Nat.lt_succ_self _
      · cases went
    | load | store =>
      obtain ⟨_, rfl⟩ := Turn.goesOn.inj went
      exact Nat.lt_succ_self _
    | mutexUnlock => cases went

/-- The thread has the mutex. -/
def Inside (locals : Option Locals) : Prop :=
  ∃ within, locals = some within ∧ within ≠ .mutexLock

/-- The increments that a turn has made and not yet ended with. -/
def stored (locals : Option Locals) : Nat := if locals = some .mutexUnlock then 1 else 0

/-- The increments of one thread, in the turns that it has ended and in the one that it is
in. -/
def increments (turns : Name → Nat) (work : Name → Option Locals) (thread : Name) : Nat :=
  turns thread + stored (work thread)

/-- The mutex is with the one thread inside; what it has loaded is the counter; and the
counter is the increments, as far as an int holds them. -/
structure Guarded (turns : Name → Nat) (shared : Shared) (work : Name → Option Locals) :
    Prop where
  held : ∀ thread, Inside (work thread) ↔ shared.lock = some thread
  loaded : ∀ thread counter, work thread = some (.store counter) → counter = shared.counter
  counted : shared.counter = wrapSigned 32
    (increments turns work .thread1 + increments turns work .thread2)

/-- What a thread outside has stored counts with the turns that it has ended. -/
theorem outside_stored (locals : Option Locals) (outside : ¬ Inside locals) :
    stored locals = 0 := by
  simp only [stored, ite_eq_right_iff]
  intro unlocks
  exact absurd ⟨.mutexUnlock, unlocks, by simp⟩ outside

/-- A thread takes a step from one stage of its turn to another; the others stay. -/
theorem guarded_update (turns later : Name → Nat) (shared next : Shared)
    (work : Name → Option Locals) (thread : Name) (stage : Option Locals)
    (guarded : Guarded turns shared work)
    (held : Inside stage ↔ next.lock = some thread)
    (others : ∀ other, other ≠ thread → (shared.lock = some other ↔ next.lock = some other))
    (loaded : ∀ counter, stage = some (.store counter) → counter = next.counter)
    (alone : next.counter = shared.counter ∨ shared.lock = some thread)
    (same : ∀ other, other ≠ thread → later other = turns other)
    (counted : next.counter = wrapSigned 32 (shared.counter +
      ((later thread + stored stage : Nat) - (turns thread + stored (work thread) : Nat)))) :
    Guarded later next (Function.update work thread stage) where
  held other := by
    by_cases here : other = thread
    · rw [here, Function.update_self]
      exact held
    · rw [Function.update_of_ne here]
      exact (guarded.held other).trans (others other here)
  loaded other counter stores := by
    by_cases here : other = thread
    · rw [here, Function.update_self] at stores
      exact loaded counter stores
    · rw [Function.update_of_ne here] at stores
      rcases alone with unchanged | mine
      · rw [unchanged]
        exact guarded.loaded other counter stores
      · have inside := (guarded.held other).mp ⟨_, stores, by simp⟩
        exact absurd (Option.some.inj (inside.symm.trans mine)) here
  counted := by
    have total := guarded.counted
    rw [counted, total, wrap_add]
    apply congrArg (wrapSigned 32)
    cases thread with
    | thread1 =>
      have other := same .thread2 (by decide)
      simp [increments, other]
      omega
    | thread2 =>
      have other := same .thread1 (by decide)
      simp [increments, other]

/-- A wrapped counter that nothing is added to. -/
theorem wrap_unchanged (turns : Name → Nat) (shared : Shared) (work : Name → Option Locals)
    (guarded : Guarded turns shared work) (amount : Int) (none : amount = 0) :
    shared.counter = wrapSigned 32 (shared.counter + amount) := by
  rw [none, guarded.counted, wrap_add, Int.add_zero]

/-- The mutex keeps the increments apart. -/
def mutexed : Discipline worker where
  Holds := Guarded
  begins turns shared work thread guarded idle := by
    have outside : ¬ Inside (work thread) := by
      rw [idle]
      rintro ⟨within, impossible, _⟩
      cases impossible
    refine guarded_update turns turns shared shared work thread _ guarded ?_ (fun _ _ => Iff.rfl)
      (by simp [worker]) (Or.inl rfl) (fun _ _ => rfl)
      (wrap_unchanged turns shared work guarded _ (by simp [worker, idle, stored]))
    rw [← guarded.held thread]
    refine iff_of_false ?_ outside
    rintro ⟨within, here, apart⟩
    exact apart (Option.some.inj here).symm
  goesOn turns shared work thread locals next rest guarded works went := by
    cases locals with
    | mutexLock =>
      simp only [worker, workerAct] at went
      split at went
      · next free =>
        obtain ⟨rfl, rfl⟩ := Turn.goesOn.inj went
        refine guarded_update turns turns shared _ work thread _ guarded
          (iff_of_true ⟨.load, rfl, by simp⟩ rfl) (fun other apart => ?_) (by simp) (Or.inl rfl)
          (fun _ _ => rfl) (wrap_unchanged turns shared work guarded _ (by simp [works, stored]))
        rw [free]
        simp [Ne.symm apart]
      · cases went
    | load =>
      obtain ⟨rfl, rfl⟩ := Turn.goesOn.inj went
      have mine := (guarded.held thread).mp ⟨.load, works, by simp⟩
      exact guarded_update turns turns shared shared work thread _ guarded
        (iff_of_true ⟨_, rfl, by simp⟩ mine) (fun _ _ => Iff.rfl)
        (fun counter same => by cases same; rfl) (Or.inl rfl) (fun _ _ => rfl)
        (wrap_unchanged turns shared work guarded _ (by simp [works, stored]))
    | store counter =>
      obtain ⟨rfl, rfl⟩ := Turn.goesOn.inj went
      have mine := (guarded.held thread).mp ⟨.store counter, works, by simp⟩
      refine guarded_update turns turns shared _ work thread _ guarded
        (iff_of_true ⟨.mutexUnlock, rfl, by simp⟩ mine) (fun _ _ => Iff.rfl) (by simp)
        (Or.inr mine) (fun _ _ => rfl) ?_
      rw [guarded.loaded thread counter works]
      simp [works, stored]
    | mutexUnlock => cases went
  ends turns shared work thread locals next guarded works ended := by
    cases locals with
    | mutexLock =>
      simp only [worker, workerAct] at ended
      split at ended <;> cases ended
    | load | store => cases ended
    | mutexUnlock =>
      have mine := (guarded.held thread).mp ⟨.mutexUnlock, works, by simp⟩
      obtain rfl := Turn.ends.inj ended
      refine guarded_update turns _ shared _ work thread none guarded ?_ (fun other apart => ?_)
        (by simp) (Or.inl rfl) (fun other apart => by simp [tallied, apart])
        (wrap_unchanged turns shared work guarded _ (by simp [works, stored, tallied]))
      · exact iff_of_false (by simp [Inside]) (by simp)
      · rw [mine]
        simp [Ne.symm apart]
  live turns shared work thread locals guarded works := by
    cases held : shared.lock with
    | some holder =>
      obtain ⟨within, here, apart⟩ := (guarded.held holder).mpr held
      refine ⟨holder, within, here, ?_⟩
      cases within with
      | mutexLock => exact absurd rfl apart
      | load | store | mutexUnlock => simp [worker, workerAct]
    | none =>
      refine ⟨thread, locals, works, ?_⟩
      cases locals with
      | mutexLock => simp [worker, workerAct, held]
      | load | store | mutexUnlock => simp [worker, workerAct]

/-- No increment is lost: in every state of a run in which the mutex is free, the counter is
the turns that the threads have ended, as far as an int holds them. If both threads could be
created, no run crashes, and the module can always be unloaded; if not, it cannot be, and
every run can get to the crash. Once it is unloaded, nothing happens any more, and the mutex
is free. -/
theorem counter_demo_counts (succeeds : Name → Bool)
    (actions : List (KernelThreads.Action Name)) :
    let first := start kThreadModule ⟨0, none⟩
    let run := trace (step kThreadModule succeeds worker) first actions
    let final := after (step kThreadModule succeeds worker) first actions
    (final.shared.lock = none → final.shared.counter =
        wrapSigned 32 (turnsIn worker run .thread1 + turnsIn worker run .thread2)) ∧
      ((∀ thread, succeeds thread = true) → final.control ≠ .crashed ∧
        ∃ more, (after (step kThreadModule succeeds worker) final more).control =
          .unloading []) ∧
      (¬ (∀ thread, succeeds thread = true) → final.control ≠ .unloading [] ∧
        ∃ more, (after (step kThreadModule succeeds worker) final more).control = .crashed) ∧
      (final.control = .unloading [] →
        Quiet kThreadModule succeeds worker final ∧ final.shared.lock = none) := by
  intro first run final
  have pointers (thread : Name) :
      Unsafe kThreadModule succeeds thread ↔ succeeds thread = false := by
    cases thread <;> cases succeeded : succeeds _ <;> simp [Unsafe, succeeded] <;> decide
  have begins : Guarded (fun _ => 0) ⟨0, none⟩ fun _ => none :=
    ⟨fun _ => iff_of_false (by simp [Inside]) (by simp), by simp, by decide⟩
  have guarded := run_discipline kThreadModule succeeds mutexed ⟨0, none⟩ begins actions
  obtain ⟨both, failed⟩ := unchecked_finishes kThreadModule succeeds worker mutexed pointers _
    actions begins
  refine ⟨fun free => ?_, both, failed, fun unloaded => ?_⟩
  · have ended (thread : Name) :
        increments (turnsIn worker run) final.work thread = turnsIn worker run thread := by
      have outside : ¬ Inside (final.work thread) := by
        rw [guarded.held thread, free]
        simp
      rw [increments, outside_stored _ outside, Nat.add_zero]
    have counted : final.shared.counter = wrapSigned 32
        (increments (turnsIn worker run) final.work .thread1 +
          increments (turnsIn worker run) final.work .thread2) := guarded.counted
    rwa [ended, ended] at counted
  · have quiet := unloaded_quiet kThreadModule succeeds worker (by decide) _ actions unloaded
    refine ⟨quiet, ?_⟩
    cases held : final.shared.lock with
    | none => rfl
    | some holder =>
      obtain ⟨within, here, _⟩ := (guarded.held holder).mpr held
      rcases quiet.1 holder with null | ⟨stop, gone⟩
      · rw [System.work, null] at here
        cases here
      · rw [System.work, gone] at here
        cases here

end Mutex

end LddExamples.ThreadModules
