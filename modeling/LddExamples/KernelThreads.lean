import LddExamples.Runs
import Mathlib.Logic.Function.Basic

/-!
# Modules with kernel threads

A module creates its threads as it is loaded and stops them as it is unloaded. Each thread
tests whether it should stop, takes a turn, sleeps, and tests again; a turn is a number of
accesses to what the threads share, and one of them may have to wait for a lock. The steps of
the module and of its threads come in any order.

A creation can fail, and then the pointer to the thread is an error. To wake or to stop
an error crashes; whether that can happen depends on the operations on each pointer alone.
Otherwise the module can always be unloaded, and then none of its threads takes a step
again. Nothing here depends on what the threads do in their turns.
-/

namespace LddExamples.KernelThreads

open Runs

universe u v w
variable {σ : Type u} {ι : Type v} {ℓ : Type w}

/-- Where a thread is in its loop. One that is only created has not been woken. -/
inductive Place (ℓ : Type w) where
  | created
  | testing
  | working (locals : ℓ)
  | sleeping
  | gone

/-- A pointer to a thread, with the thread. -/
inductive Slot (ℓ : Type w) where
  | null
  | error
  | task (place : Place ℓ) (shouldStop : Bool)

/-- A pointer without its thread. -/
inductive Kind where
  | null
  | error
  | task
deriving DecidableEq

/-- What a pointer is, without its thread. -/
def Slot.kind : Slot ℓ → Kind
  | .null => .null
  | .error => .error
  | .task _ _ => .task

/-- The operations on a pointer while a module is loaded. `wakeOrClear` wakes a thread that
could be created and sets the pointer to null otherwise; `clearError` only sets an error to
null. -/
inductive Operation where
  | kthreadCreate
  | kthreadRun
  | wakeUpProcess
  | wakeOrClear
  | clearError
deriving DecidableEq

/-- The operations that set a pointer, whatever it was. -/
def Operation.creates : Operation → Bool
  | .kthreadCreate => true
  | .kthreadRun => true
  | _ => false

/-- Waking a thread lets one that is only created begin. To any other it does nothing here.
-/
def Place.woken : Place ℓ → Place ℓ
  | .created => .testing
  | place => place

/-- What an operation leaves in the pointer, if it does not crash. -/
def Operation.execute (succeeds : Bool) : Operation → Slot ℓ → Option (Slot ℓ)
  | .kthreadCreate, _ => some (if succeeds then .task .created false else .error)
  | .kthreadRun, _ => some (if succeeds then .task .testing false else .error)
  | .wakeUpProcess, .task place stop => some (.task place.woken stop)
  | .wakeUpProcess, _ => none
  | .wakeOrClear, .task place stop => some (.task place.woken stop)
  | .wakeOrClear, .error => some .null
  | .wakeOrClear, .null => none
  | .clearError, .error => some .null
  | .clearError, slot => some slot

/-- The same without the thread. -/
def Operation.kind (succeeds : Bool) (kind : Kind) : Operation → Option Kind
  | .kthreadCreate => some (if succeeds then .task else .error)
  | .kthreadRun => some (if succeeds then .task else .error)
  | .wakeUpProcess => if kind = .task then some .task else none
  | .wakeOrClear => if kind = .null then none else if kind = .error then some .null else some kind
  | .clearError => if kind = .error then some .null else some kind

/-- Whether a thread sleeps unwoken after an operation, by whether it did before. Only a
creation that does not run its thread leaves one asleep; clearing an error wakes nothing. -/
def Operation.leavesAsleep (asleep : Bool) : Operation → Bool
  | .kthreadCreate => true
  | .clearError => asleep
  | .kthreadRun | .wakeUpProcess | .wakeOrClear => false

/-- Whether some operations on a pointer leave its thread asleep. -/
def leftAsleep (operations : List Operation) : Bool :=
  operations.foldl Operation.leavesAsleep false

/-- The pointer after some operations, if none of them crashes. -/
def pointer (succeeds : Bool) (operations : List Operation) : Option Kind :=
  operations.foldlM (Operation.kind succeeds) .null

/-- What comes of one access of a turn. -/
inductive Turn (σ : Type u) (ℓ : Type w) where
  | blocked
  | goesOn (shared : σ) (locals : ℓ)
  | ends (shared : σ)

/-- The turns of the threads, with a bound on the accesses that are left. -/
structure Body (σ : Type u) (ι : Type v) (ℓ : Type w) where
  start : ι → ℓ
  act : ι → σ → ℓ → Turn σ ℓ
  left : ℓ → Nat
  shrinks : ∀ thread shared locals next rest,
    act thread shared locals = .goesOn next rest → left rest < left locals

/-- Where the code of the module is. Loaded with nothing left to do, it waits to be
unloaded; unloaded with nothing left to do, it is gone. -/
inductive Control (ι : Type v) where
  | loading (rest : List (ι × Operation))
  | unloading (rest : List ι)
  | waiting (thread : ι) (rest : List ι)
  | crashed

/-- What the threads share, the pointers with their threads, and where the module is. -/
structure System (σ : Type u) (ι : Type v) (ℓ : Type w) where
  shared : σ
  slot : ι → Slot ℓ
  control : Control ι

/-- The next step of the module, a request to unload it, or a step of a thread. -/
inductive Action (ι : Type v) where
  | advance
  | unload
  | thread (thread : ι)

/-- The locals of the threads that are in a turn. -/
def Slot.work : Slot ℓ → Option ℓ
  | .task (.working locals) _ => some locals
  | _ => none

/-- The locals of a thread, while it is in a turn. -/
def System.work (system : System σ ι ℓ) (thread : ι) : Option ℓ := (system.slot thread).work

/-- There is no thread, or it has returned. -/
def Slot.Ended (slot : Slot ℓ) : Prop := slot = .null ∨ ∃ stop, slot = .task .gone stop

/-- A thread that has been created and not woken. It takes no step before it is told to stop. -/
def Slot.Asleep (slot : Slot ℓ) : Prop := ∃ stop, slot = .task .created stop

/-- A thread that has been woken does not sleep unwoken. -/
theorem woken_awake (place : Place ℓ) : place.woken ≠ .created := by
  cases place <;> simp [Place.woken]

/-- An operation leaves a thread asleep only as it should: a waking one does not. -/
theorem execute_asleep (operation : Operation) (succeeds : Bool) (slot next : Slot ℓ)
    (asleep : Bool) (before : slot.Asleep → asleep = true)
    (done : operation.execute succeeds slot = some next) (sleeps : next.Asleep) :
    operation.leavesAsleep asleep = true := by
  obtain ⟨stop, rfl⟩ := sleeps
  cases operation with
  | kthreadCreate => rfl
  | kthreadRun => cases succeeds <;> simp [Operation.execute] at done
  | wakeUpProcess | wakeOrClear =>
    cases slot with
    | null | error => simp [Operation.execute] at done
    | task place told =>
      simp only [Operation.execute, Option.some.injEq, Slot.task.injEq] at done
      exact absurd done.1 (woken_awake place)
  | clearError =>
    cases slot with
    | null | error => simp [Operation.execute] at done
    | task place told => exact before ⟨stop, Option.some.inj done⟩

/-- An operation does to the kind of a pointer what it does to the pointer. -/
theorem execute_kind (operation : Operation) (succeeds : Bool) (slot : Slot ℓ) :
    (operation.execute succeeds slot).map Slot.kind = operation.kind succeeds slot.kind := by
  cases operation <;> cases slot <;> cases succeeds <;> rfl

/-- One more operation on a pointer. -/
theorem pointer_append (succeeds : Bool) (earlier later : List Operation) :
    pointer succeeds (earlier ++ later) =
      (pointer succeeds earlier).bind fun kind => later.foldlM (Operation.kind succeeds) kind := by
  simp only [pointer, List.foldlM_append]
  rfl

/-- What the threads do to a slot: its thread stays, told to stop or not, and does not come
back once it is gone. -/
inductive Slot.Goes : Slot ℓ → Slot ℓ → Prop
  | null : Goes .null .null
  | error : Goes .error .error
  | task (place next : Place ℓ) (stop : Bool) (stays : place = .gone → next = .gone) :
      Goes (.task place stop) (.task next stop)

/-- A slot may stay as it is. -/
theorem goes_refl (slot : Slot ℓ) : slot.Goes slot := by
  cases slot with
  | null => exact .null
  | error => exact .error
  | task place stop => exact .task place place stop id

/-- Going on twice is going on. -/
theorem goes_trans (first second third : Slot ℓ) (early : first.Goes second)
    (late : second.Goes third) : first.Goes third := by
  cases early with
  | null => exact late
  | error => exact late
  | task place next stop stays =>
    cases late with
    | task _ last _ after => exact .task place last stop (after ∘ stays)

/-- A pointer stays what it is. -/
theorem goes_kind (slot next : Slot ℓ) (goes : slot.Goes next) : next.kind = slot.kind := by
  cases goes <;> rfl

/-- What has ended stays so. -/
theorem goes_ended (slot next : Slot ℓ) (goes : slot.Goes next) (ended : slot.Ended) :
    next.Ended := by
  rcases ended with rfl | ⟨stop, rfl⟩
  · cases goes
    exact Or.inl rfl
  · cases goes with
    | task _ last _ stays => exact Or.inr ⟨stop, by rw [stays rfl]⟩

/-- A thread that is told to stop stays told, and one that is not stays untold. -/
theorem goes_told (slot next : Slot ℓ) (goes : slot.Goes next) (place : Place ℓ) (stop : Bool)
    (told : slot = .task place stop) : ∃ last, next = .task last stop := by
  subst told
  cases goes with
  | task _ last _ stays => exact ⟨last, rfl⟩

/-- A thread in a turn is where its locals are. -/
theorem slot_of_work (slot : Slot ℓ) (locals : ℓ) (works : slot.work = some locals) :
    ∃ stop, slot = .task (.working locals) stop := by
  rcases slot with _ | _ | ⟨_ | _ | other | _ | _, stop⟩
  case task.working => exact ⟨stop, by rw [Option.some.inj works]⟩
  all_goals simp [Slot.work] at works

/-- One more thread that is stopped. -/
theorem stopped_one_more (exit rest : List ι) (thread : ι) (slot : ι → Slot ℓ)
    (earlier : ∃ stopped, stopped ++ thread :: rest = exit ∧ ∀ other ∈ stopped, (slot other).Ended)
    (ended : (slot thread).Ended) :
    ∃ stopped, stopped ++ rest = exit ∧ ∀ other ∈ stopped, (slot other).Ended := by
  obtain ⟨stopped, all, past⟩ := earlier
  refine ⟨stopped ++ [thread], by rw [← all, List.append_assoc]; rfl, fun other member => ?_⟩
  rcases List.mem_append.mp member with before | here
  · exact past other before
  · rw [List.mem_singleton.mp here]
    exact ended

variable [DecidableEq ι]

/-- The operations on the pointer of one thread, in order. -/
def operationsOn (thread : ι) (statements : List (ι × Operation)) : List Operation :=
  statements.filterMap fun statement =>
    if statement.1 = thread then some statement.2 else none

/-- A module: the operations as it is loaded, and the pointers whose threads are stopped, if
they are not null, as it is unloaded. A pointer is set by its first operation at most. -/
structure Module (ι : Type v) [DecidableEq ι] where
  init : List (ι × Operation)
  exit : List ι
  once : ∀ thread, ∀ operation ∈ (operationsOn thread init).tail, operation.creates = false

/-- The module before its first operation. -/
def start (module : Module ι) (shared : σ) : System σ ι ℓ :=
  ⟨shared, fun _ => .null, .loading module.init⟩

/-- The next step of the module's own code. -/
def advance (succeeds : ι → Bool) (system : System σ ι ℓ) : System σ ι ℓ :=
  match system.control with
  | .loading [] => system
  | .loading ((thread, operation) :: rest) =>
      match operation.execute (succeeds thread) (system.slot thread) with
      | some slot => ⟨system.shared, Function.update system.slot thread slot, .loading rest⟩
      | none => { system with control := .crashed }
  | .unloading [] => system
  | .unloading (thread :: rest) =>
      match system.slot thread with
      | .null => { system with control := .unloading rest }
      | .error => { system with control := .crashed }
      | .task place _ =>
          ⟨system.shared, Function.update system.slot thread (.task place true),
            .waiting thread rest⟩
  | .waiting thread rest =>
      match system.slot thread with
      | .task .gone _ => { system with control := .unloading rest }
      | _ => system
  | .crashed => system

/-- The system with a thread at another place, and with another shared state. -/
def System.move (system : System σ ι ℓ) (shared : σ) (thread : ι) (place : Place ℓ)
    (stop : Bool) : System σ ι ℓ :=
  { system with shared := shared, slot := Function.update system.slot thread (.task place stop) }

/-- The next step of a thread. One that is to stop returns at its next test; one that has
never been woken returns without one. -/
def runThread (body : Body σ ι ℓ) (system : System σ ι ℓ) (thread : ι) : System σ ι ℓ :=
  match system.slot thread with
  | .task .created true => system.move system.shared thread .gone true
  | .task .testing true => system.move system.shared thread .gone true
  | .task .testing false => system.move system.shared thread (.working (body.start thread)) false
  | .task (.working locals) stop =>
      match body.act thread system.shared locals with
      | .blocked => system
      | .goesOn shared rest => system.move shared thread (.working rest) stop
      | .ends shared => system.move shared thread .sleeping stop
  | .task .sleeping stop => system.move system.shared thread .testing stop
  | _ => system

/-- The next step of the thread ends its turn. -/
def endsTurn (body : Body σ ι ℓ) (system : System σ ι ℓ) (thread : ι) : Bool :=
  match system.slot thread with
  | .task (.working locals) _ =>
      match body.act thread system.shared locals with
      | .ends _ => true
      | _ => false
  | _ => false

/-- The thread whose turn a step ends. -/
def endedTurn (body : Body σ ι ℓ) (event : Event (System σ ι ℓ) (Action ι)) : Option ι :=
  match event.call with
  | .thread thread => if endsTurn body event.before thread then some thread else none
  | _ => none

/-- The operations of two lists of statements on a pointer. -/
theorem operations_on_append (thread : ι) (earlier later : List (ι × Operation)) :
    operationsOn thread (earlier ++ later) =
      operationsOn thread earlier ++ operationsOn thread later :=
  List.filterMap_append

/-- A statement on the pointer is its first operation. -/
theorem operations_on_same (thread : ι) (operation : Operation) (later : List (ι × Operation)) :
    operationsOn thread ((thread, operation) :: later) =
      operation :: operationsOn thread later := by
  simp [operationsOn]

/-- A statement on another pointer is none. -/
theorem operations_on_other (thread other : ι) (operation : Operation)
    (later : List (ι × Operation)) (different : thread ≠ other) :
    operationsOn other ((thread, operation) :: later) = operationsOn other later := by
  simp [operationsOn, different]

variable (module : Module ι) (succeeds : ι → Bool) (body : Body σ ι ℓ)

/-- A step; `succeeds` says which creations do. -/
def step (system : System σ ι ℓ) : Action ι → System σ ι ℓ × Unit
  | .advance => (advance succeeds system, ())
  | .unload =>
      match system.control with
      | .loading [] => ({ system with control := .unloading module.exit }, ())
      | _ => (system, ())
  | .thread thread => (runThread body system thread, ())

/-- An operation on the pointer of this thread crashes: one while the module is loaded, or
the stop of an error. -/
def Unsafe (thread : ι) : Prop :=
  pointer (succeeds thread) (operationsOn thread module.init) = none ∨
    (thread ∈ module.exit ∧
      pointer (succeeds thread) (operationsOn thread module.init) = some .error)

instance (thread : ι) : Decidable (Unsafe module succeeds thread) :=
  inferInstanceAs (Decidable (_ ∨ _))

/-- What the pointers are, by where the code of the module is. -/
def Reached (system : System σ ι ℓ) : Prop :=
  match system.control with
  | .loading rest => ∃ executed, executed ++ rest = module.init ∧ ∀ thread,
      pointer (succeeds thread) (operationsOn thread executed) = some (system.slot thread).kind
  | .unloading rest => (∃ stopped, stopped ++ rest = module.exit ∧
        ∀ thread ∈ stopped, (system.slot thread).Ended) ∧
      ∀ thread, pointer (succeeds thread) (operationsOn thread module.init) =
        some (system.slot thread).kind
  | .waiting thread rest => (∃ stopped, stopped ++ thread :: rest = module.exit ∧
        ∀ thread ∈ stopped, (system.slot thread).Ended) ∧
      (∀ thread, pointer (succeeds thread) (operationsOn thread module.init) =
        some (system.slot thread).kind) ∧
      ∃ place, system.slot thread = .task place true
  | .crashed => ∃ thread, Unsafe module succeeds thread

/-- What a step of the module's own code does. -/
inductive Advances (system : System σ ι ℓ) : System σ ι ℓ → Prop
  | executed (thread : ι) (operation : Operation) (rest : List (ι × Operation)) (next : Slot ℓ)
      (control : system.control = .loading ((thread, operation) :: rest))
      (done : operation.execute (succeeds thread) (system.slot thread) = some next) :
      Advances system
        ⟨system.shared, Function.update system.slot thread next, .loading rest⟩
  | failed (thread : ι) (operation : Operation) (rest : List (ι × Operation))
      (control : system.control = .loading ((thread, operation) :: rest))
      (done : operation.execute (succeeds thread) (system.slot thread) = none) :
      Advances system { system with control := .crashed }
  | passed (thread : ι) (rest : List ι) (control : system.control = .unloading (thread :: rest))
      (slot : system.slot thread = .null) :
      Advances system { system with control := .unloading rest }
  | stoppedError (thread : ι) (rest : List ι)
      (control : system.control = .unloading (thread :: rest))
      (slot : system.slot thread = .error) : Advances system { system with control := .crashed }
  | told (thread : ι) (rest : List ι) (place : Place ℓ) (stop : Bool)
      (control : system.control = .unloading (thread :: rest))
      (slot : system.slot thread = .task place stop) :
      Advances system ⟨system.shared, Function.update system.slot thread (.task place true),
        .waiting thread rest⟩
  | joined (thread : ι) (rest : List ι) (stop : Bool)
      (control : system.control = .waiting thread rest)
      (slot : system.slot thread = .task .gone stop) :
      Advances system { system with control := .unloading rest }
  | stays : Advances system system

/-- Every step of the module's own code has one of these effects. -/
theorem advance_effect (system : System σ ι ℓ) :
    Advances succeeds system (advance succeeds system) := by
  cases control : system.control with
  | crashed =>
    simp only [advance, control]
    exact .stays
  | loading rest =>
    cases rest with
    | nil =>
      simp only [advance, control]
      exact .stays
    | cons statement rest =>
      obtain ⟨thread, operation⟩ := statement
      cases done : operation.execute (succeeds thread) (system.slot thread) with
      | some next =>
        simp only [advance, control, done]
        exact .executed thread operation rest next control done
      | none =>
        simp only [advance, control, done]
        exact .failed thread operation rest control done
  | unloading rest =>
    cases rest with
    | nil =>
      simp only [advance, control]
      exact .stays
    | cons thread rest =>
      cases slot : system.slot thread with
      | null =>
        simp only [advance, control, slot]
        exact .passed thread rest control slot
      | error =>
        simp only [advance, control, slot]
        exact .stoppedError thread rest control slot
      | task place stop =>
        simp only [advance, control, slot]
        exact .told thread rest place stop control slot
  | waiting thread rest =>
    rcases slot : system.slot thread with _ | _ | ⟨_ | _ | _ | _ | _, stop⟩
    case task.gone =>
      simp only [advance, control, slot]
      exact .joined thread rest stop control slot
    all_goals
      simp only [advance, control, slot]
      exact .stays

/-- What a step of a thread does, and whether it ends a turn. -/
inductive Proceeds (system : System σ ι ℓ) (thread : ι) : Bool → System σ ι ℓ → Prop
  | returned (place : Place ℓ) (slot : system.slot thread = .task place true)
      (idle : (Slot.task place true).work = none) :
      Proceeds system thread false (system.move system.shared thread .gone true)
  | began (slot : system.slot thread = .task .testing false) :
      Proceeds system thread false
        (system.move system.shared thread (.working (body.start thread)) false)
  | wentOn (locals rest : ℓ) (next : σ) (stop : Bool)
      (slot : system.slot thread = .task (.working locals) stop)
      (turn : body.act thread system.shared locals = .goesOn next rest) :
      Proceeds system thread false (system.move next thread (.working rest) stop)
  | ended (locals : ℓ) (next : σ) (stop : Bool)
      (slot : system.slot thread = .task (.working locals) stop)
      (turn : body.act thread system.shared locals = .ends next) :
      Proceeds system thread true (system.move next thread .sleeping stop)
  | awoke (stop : Bool) (slot : system.slot thread = .task .sleeping stop) :
      Proceeds system thread false (system.move system.shared thread .testing stop)
  | stays : Proceeds system thread false system

/-- Every step of a thread has one of these effects. -/
theorem run_thread_effect (system : System σ ι ℓ) (thread : ι) :
    Proceeds body system thread (endsTurn body system thread) (runThread body system thread) := by
  rcases slot : system.slot thread with _ | _ | ⟨_ | _ | locals | _ | _, _ | _⟩
  case task.created.true | task.testing.true =>
    simp only [runThread, endsTurn, slot]
    exact .returned _ slot rfl
  case task.testing.false =>
    simp only [runThread, endsTurn, slot]
    exact .began slot
  case task.working.false | task.working.true =>
    cases turn : body.act thread system.shared locals with
    | blocked =>
      simp only [runThread, endsTurn, slot, turn]
      exact .stays
    | goesOn next rest =>
      simp only [runThread, endsTurn, slot, turn]
      exact .wentOn locals rest next _ slot turn
    | ends next =>
      simp only [runThread, endsTurn, slot, turn]
      exact .ended locals next _ slot turn
  case task.sleeping.false | task.sleeping.true =>
    simp only [runThread, endsTurn, slot]
    exact .awoke _ slot
  all_goals
    simp only [runThread, endsTurn, slot]
    exact .stays

/-- The thread is where it was moved to. -/
theorem move_self (system : System σ ι ℓ) (shared : σ) (thread : ι) (place : Place ℓ)
    (stop : Bool) : (system.move shared thread place stop).slot thread = .task place stop :=
  Function.update_self _ _ _

/-- The others stay where they were. -/
theorem move_other (system : System σ ι ℓ) (shared : σ) (thread other : ι) (place : Place ℓ)
    (stop : Bool) (different : other ≠ thread) :
    (system.move shared thread place stop).slot other = system.slot other :=
  Function.update_of_ne different _ _

/-- A thread's step leaves the code of the module where it is, and every slot goes on. -/
theorem run_thread_goes (system : System σ ι ℓ) (thread : ι) :
    (runThread body system thread).control = system.control ∧
      ∀ other, (system.slot other).Goes ((runThread body system thread).slot other) := by
  have moved (shared : σ) (place next : Place ℓ) (stop : Bool)
      (here : system.slot thread = .task place stop) (stays : place = .gone → next = .gone)
      (other : ι) :
      (system.slot other).Goes ((system.move shared thread next stop).slot other) := by
    by_cases same : other = thread
    · subst same
      rw [move_self, here]
      exact .task place next stop stays
    · rw [move_other _ _ _ _ _ _ same]
      exact goes_refl _
  have effect := run_thread_effect body system thread
  generalize endsTurn body system thread = ended at effect
  generalize runThread body system thread = next at effect ⊢
  cases effect with
  | returned place slot idle => exact ⟨rfl, moved _ _ _ _ slot fun _ => rfl⟩
  | began slot => exact ⟨rfl, moved _ _ _ _ slot (by simp)⟩
  | wentOn locals rest next stop slot turn => exact ⟨rfl, moved _ _ _ _ slot (by simp)⟩
  | ended locals next stop slot turn => exact ⟨rfl, moved _ _ _ _ slot (by simp)⟩
  | awoke stop slot => exact ⟨rfl, moved _ _ _ _ slot (by simp)⟩
  | stays => exact ⟨rfl, fun _ => goes_refl _⟩

/-- An operation that has not crashed gives the kinds after it. -/
theorem kinds_after (executed : List (ι × Operation)) (thread : ι) (operation : Operation)
    (slot : ι → Slot ℓ) (next : Slot ℓ)
    (kinds : ∀ thread, pointer (succeeds thread) (operationsOn thread executed) =
      some (slot thread).kind)
    (done : operation.execute (succeeds thread) (slot thread) = some next) (other : ι) :
    pointer (succeeds other) (operationsOn other (executed ++ [(thread, operation)])) =
      some (Function.update slot thread next other).kind := by
  rw [operations_on_append, pointer_append, kinds other]
  by_cases same : other = thread
  · subst same
    have kind := execute_kind operation (succeeds other) (slot other)
    rw [done] at kind
    rw [operations_on_same, Function.update_self]
    simpa [operationsOn] using kind.symm
  · rw [operations_on_other _ _ _ _ (Ne.symm same), Function.update_of_ne same]
    rfl

/-- Threads keep what the pointers are. -/
theorem reached_thread (system : System σ ι ℓ) (thread : ι)
    (reached : Reached module succeeds system) :
    Reached module succeeds (runThread body system thread) := by
  obtain ⟨same, goes⟩ := run_thread_goes body system thread
  have kind (other : ι) := goes_kind _ _ (goes other)
  have ended (other : ι) := goes_ended _ _ (goes other)
  have told (other : ι) := goes_told _ _ (goes other)
  generalize runThread body system thread = next at same kind ended told ⊢
  simp only [Reached, same, kind] at reached ⊢
  cases control : system.control with
  | loading rest => simpa only [control] using reached
  | crashed => simpa only [control] using reached
  | unloading rest =>
    simp only [control] at reached ⊢
    obtain ⟨⟨stopped, all, past⟩, kinds⟩ := reached
    exact ⟨⟨stopped, all, fun other member => ended other (past other member)⟩, kinds⟩
  | waiting stopping rest =>
    simp only [control] at reached ⊢
    obtain ⟨⟨stopped, all, past⟩, kinds, place, toStop⟩ := reached
    exact ⟨⟨stopped, all, fun other member => ended other (past other member)⟩, kinds,
      told stopping place true toStop⟩

/-- The module's own steps keep what the pointers are. -/
theorem reached_advance (system : System σ ι ℓ) (reached : Reached module succeeds system) :
    Reached module succeeds (advance succeeds system) := by
  have effect := advance_effect succeeds system
  generalize advance succeeds system = after at effect ⊢
  cases effect with
  | executed thread operation rest next control done =>
    simp only [Reached, control] at reached ⊢
    obtain ⟨executed, all, kinds⟩ := reached
    refine ⟨executed ++ [(thread, operation)], by rw [← all, List.append_assoc]; rfl, ?_⟩
    exact kinds_after succeeds executed thread operation _ next kinds done
  | failed thread operation rest control done =>
    simp only [Reached, control] at reached ⊢
    obtain ⟨executed, all, kinds⟩ := reached
    refine ⟨thread, Or.inl ?_⟩
    have kind := execute_kind operation (succeeds thread) (system.slot thread)
    rw [done, Option.map_none] at kind
    rw [← all, operations_on_append, pointer_append, kinds thread, operations_on_same,
      Option.bind_some, List.foldlM_cons, ← kind]
    rfl
  | passed thread rest control slot =>
    simp only [Reached, control] at reached ⊢
    exact ⟨stopped_one_more _ _ _ _ reached.1 (Or.inl slot), reached.2⟩
  | stoppedError thread rest control slot =>
    simp only [Reached, control] at reached ⊢
    obtain ⟨⟨stopped, all, past⟩, kinds⟩ := reached
    refine ⟨thread, Or.inr ⟨by simp [← all], ?_⟩⟩
    rw [kinds thread, slot]
    rfl
  | told thread rest place stop control slot =>
    simp only [Reached, control] at reached ⊢
    obtain ⟨⟨stopped, all, past⟩, kinds⟩ := reached
    refine ⟨⟨stopped, all, fun other member => ?_⟩, fun other => ?_, place,
      Function.update_self _ _ _⟩
    · by_cases same : other = thread
      · rw [same] at member ⊢
        rcases past thread member with null | ⟨earlier, gone⟩
        · exact absurd (slot.symm.trans null) (by simp)
        · obtain ⟨rfl, _⟩ := Slot.task.inj (slot.symm.trans gone)
          exact Or.inr ⟨true, Function.update_self _ _ _⟩
      · rw [Function.update_of_ne same]
        exact past other member
    · rw [kinds other]
      by_cases same : other = thread
      · rw [same, Function.update_self, slot]
        rfl
      · rw [Function.update_of_ne same]
  | joined thread rest stop control slot =>
    simp only [Reached, control] at reached ⊢
    exact ⟨stopped_one_more _ _ _ _ reached.1 (Or.inr ⟨stop, slot⟩), reached.2.1⟩
  | stays => exact reached

/-- Every step keeps what the pointers are. -/
theorem reached_kept (system : System σ ι ℓ) (action : Action ι)
    (reached : Reached module succeeds system) :
    Reached module succeeds (step module succeeds body system action).1 := by
  cases action with
  | thread thread => exact reached_thread module succeeds body system thread reached
  | advance => exact reached_advance module succeeds system reached
  | unload =>
    rcases control : system.control with _ | _ | _ | _
    case loading rest =>
      cases rest with
      | cons => simpa only [step, control] using reached
      | nil =>
        simp only [Reached, control, List.append_nil] at reached
        obtain ⟨executed, rfl, kinds⟩ := reached
        simp only [step, control]
        exact ⟨⟨[], rfl, fun _ member => absurd member List.not_mem_nil⟩, kinds⟩
    all_goals simpa only [step, control] using reached

/-- In every state of a run, the pointers are what the operations before it make them. -/
theorem run_reached (shared : σ) (actions : List (Action ι)) :
    Reached module succeeds (after (step module succeeds body) (start module shared) actions) :=
  invariant_after (step module succeeds body) (Reached module succeeds)
    (reached_kept module succeeds body) _ actions ⟨[], rfl, fun _ => rfl⟩

/-- While the module is loaded, a thread that sleeps is one that the operations so far have
left asleep. -/
def Drowsy (system : System σ ι ℓ) : Prop :=
  match system.control with
  | .loading rest => ∃ executed, executed ++ rest = module.init ∧ ∀ thread,
      (system.slot thread).Asleep → leftAsleep (operationsOn thread executed) = true
  | _ => True

/-- No step of a thread puts a thread to sleep. -/
theorem run_thread_asleep (system : System σ ι ℓ) (thread other : ι)
    (asleep : ((runThread body system thread).slot other).Asleep) :
    (system.slot other).Asleep := by
  have moved (shared : σ) (next : Place ℓ) (stop : Bool) (awake : next ≠ .created)
      (sleeps : ((system.move shared thread next stop).slot other).Asleep) :
      (system.slot other).Asleep := by
    by_cases same : other = thread
    · subst same
      obtain ⟨told, here⟩ := sleeps
      rw [move_self] at here
      exact absurd (Slot.task.inj here).1 awake
    · rwa [move_other _ _ _ _ _ _ same] at sleeps
  have effect := run_thread_effect body system thread
  generalize endsTurn body system thread = ended at effect
  generalize runThread body system thread = next at effect asleep
  cases effect with
  | returned | began | wentOn | ended | awoke => exact moved _ _ _ (by simp) asleep
  | stays => exact asleep

/-- The module's own steps keep what sleeps. -/
theorem drowsy_advance (system : System σ ι ℓ) (drowsy : Drowsy module system) :
    Drowsy module (advance succeeds system) := by
  have effect := advance_effect succeeds system
  generalize advance succeeds system = after at effect ⊢
  cases effect with
  | stays => exact drowsy
  | failed | passed | stoppedError | told | joined => trivial
  | executed thread operation rest next control done =>
    simp only [Drowsy, control] at drowsy ⊢
    obtain ⟨executed, all, sleeping⟩ := drowsy
    refine ⟨executed ++ [(thread, operation)], by rw [← all, List.append_assoc]; rfl,
      fun other asleep => ?_⟩
    rw [operations_on_append]
    by_cases same : other = thread
    · subst same
      rw [Function.update_self] at asleep
      rw [operations_on_same, leftAsleep, List.foldl_append]
      exact execute_asleep operation _ _ _ _ (sleeping other) done asleep
    · rw [Function.update_of_ne same] at asleep
      rw [operations_on_other _ _ _ _ (Ne.symm same)]
      simpa [operationsOn] using sleeping other asleep

/-- Every step keeps what sleeps. -/
theorem drowsy_kept (system : System σ ι ℓ) (action : Action ι) (drowsy : Drowsy module system) :
    Drowsy module (step module succeeds body system action).1 := by
  cases action with
  | advance => exact drowsy_advance module succeeds system drowsy
  | thread thread =>
    have same := (run_thread_goes body system thread).1
    have asleep (other : ι) := run_thread_asleep body system thread other
    simp only [step]
    generalize runThread body system thread = next at same asleep ⊢
    simp only [Drowsy, same] at drowsy ⊢
    cases control : system.control with
    | unloading | waiting | crashed => trivial
    | loading rest =>
      simp only [control] at drowsy ⊢
      obtain ⟨executed, all, sleeping⟩ := drowsy
      exact ⟨executed, all, fun other sleeps => sleeping other (asleep other sleeps)⟩
  | unload =>
    simp only [step]
    split
    · trivial
    · exact drowsy

section Unloading

variable (shared : σ) (actions : List (Action ι))

/-- In a module that is loaded, no thread sleeps that its operations do not leave asleep. -/
theorem loaded_awake
    (loaded : (after (step module succeeds body) (start module shared) actions).control =
      .loading []) (thread : ι)
    (woken : leftAsleep (operationsOn thread module.init) = false) :
    ¬ ((after (step module succeeds body) (start module shared) actions).slot thread).Asleep := by
  have drowsy := invariant_after (step module succeeds body) (Drowsy module)
    (drowsy_kept module succeeds body) (start module shared) actions
    ⟨[], rfl, fun _ asleep => by obtain ⟨stop, task⟩ := asleep; cases task⟩
  simp only [Drowsy, loaded, List.append_nil] at drowsy
  obtain ⟨executed, rfl, sleeping⟩ := drowsy
  exact fun asleep => Bool.false_ne_true (woken.symm.trans (sleeping thread asleep))

/-- A module that has crashed has a pointer that is not safe. -/
theorem crashed_unsafe
    (crashed : (after (step module succeeds body) (start module shared) actions).control =
      .crashed) : ∃ thread, Unsafe module succeeds thread := by
  have reached := run_reached module succeeds body shared actions
  simpa only [Reached, crashed] using reached

/-- A module that is loaded has executed all of its operations. -/
theorem loaded_kinds
    (loaded : (after (step module succeeds body) (start module shared) actions).control =
      .loading []) (thread : ι) :
    let final := after (step module succeeds body) (start module shared) actions
    pointer (succeeds thread) (operationsOn thread module.init) =
      some (final.slot thread).kind := by
  have reached := run_reached module succeeds body shared actions
  simp only [Reached, loaded, List.append_nil] at reached
  obtain ⟨executed, rfl, kinds⟩ := reached
  exact kinds thread

/-- A module that is gone has safe pointers, and has stopped its threads. -/
theorem unloaded_ended
    (unloaded : (after (step module succeeds body) (start module shared) actions).control =
      .unloading []) :
    (∀ thread, ¬ Unsafe module succeeds thread) ∧ ∀ thread ∈ module.exit,
      ((after (step module succeeds body) (start module shared) actions).slot thread).Ended := by
  have reached := run_reached module succeeds body shared actions
  simp only [Reached, unloaded, List.append_nil] at reached
  obtain ⟨⟨stopped, rfl, past⟩, kinds⟩ := reached
  refine ⟨fun thread crashes => ?_, past⟩
  rcases crashes with never | ⟨stops, error⟩
  · rw [kinds thread] at never
    exact absurd never (by simp)
  · rw [kinds thread] at error
    rcases past thread stops with null | ⟨stop, gone⟩
    · rw [null] at error
      exact absurd (Option.some.inj error) (by simp [Slot.kind])
    · rw [gone] at error
      exact absurd (Option.some.inj error) (by simp [Slot.kind])

/-- Where every thread is gone and so is the module, nothing happens any more. -/
theorem ended_quiet (system : System σ ι ℓ) (unloaded : system.control = .unloading [])
    (ended : ∀ thread, (system.slot thread).Ended) (more : List (Action ι)) :
    after (step module succeeds body) system more = system := by
  induction more with
  | nil => rfl
  | cons action more inductionHypothesis =>
    have still : (step module succeeds body system action).1 = system := by
      cases action with
      | advance => simp only [step, advance, unloaded]
      | unload => simp only [step, unloaded]
      | thread thread =>
        rcases ended thread with null | ⟨stop, gone⟩
        · simp only [step, runThread, null]
        · cases stop <;> simp only [step, runThread, gone]
    rw [after_cons, still, inductionHypothesis]

end Unloading

end LddExamples.KernelThreads
