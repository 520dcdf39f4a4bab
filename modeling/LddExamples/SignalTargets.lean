import LddExamples.SignalDriver

/-!
# To whom the signal driver sends

The driver forgets its task when that process drops the last reference to any open
file, and at no other time. A process that exits while others hold all its files drops
none, and stays the target of signals; a process that closes one of its files for good
is forgotten, also when it has registered through another that is still open.
-/

namespace LddExamples.SignalTargets

open Runs SharedReferences SignalDriver

/-- The process that has registered last, the open file through which it has, and
whether it has since dropped the last reference to some open file. -/
structure Registration where
  process : Nat
  file : Nat
  released : Bool
deriving DecidableEq

/-- The latest registration after one more outcome. -/
def follow (registration : Option Registration) : Outcome → Option Registration
  | .registered process file => some ⟨process, file, false⟩
  | .released process _ =>
      registration.map fun r => if r.process = process then { r with released := true } else r
  | .quiet => registration
  | .signalled _ => registration

/-- The latest registration of a history, if there is one. -/
def lastRegistration (history : List (Event System Action)) : Option Registration :=
  history.foldl (fun registration event => follow registration (event.reply step)) none

/-- One more step. -/
theorem last_registration_append (history : List (Event System Action))
    (event : Event System Action) :
    lastRegistration (history ++ [event]) =
      follow (lastRegistration history) (event.reply step) :=
  List.foldl_append

/-- A released registration is of the same process, through the same file. -/
theorem follow_released (registration : Option Registration) (process file : Nat)
    (r : Registration) (followed : follow registration (.released process file) = some r) :
    ∃ other, registration = some other ∧ r.process = other.process ∧ r.file = other.file := by
  obtain ⟨other, registered, rfl⟩ := Option.map_eq_some_iff.mp followed
  refine ⟨other, registered, ?_⟩
  split
  · exact ⟨rfl, rfl⟩
  · exact ⟨rfl, rfl⟩

/-- The task is the last process to have registered, unless that has dropped the last
reference to a file. -/
def Tracked (registration : Option Registration) (system : System) : Prop :=
  system.task = registration.bind fun r => if r.released then none else some r.process

/-- Every step keeps the task tracked. -/
theorem tracked_kept (registration : Option Registration) (system next : System)
    (action : Action) (outcome : Outcome) (effect : Effect system action next outcome)
    (tracked : Tracked registration system) : Tracked (follow registration outcome) next := by
  cases effect with
  | opened | forked | closed | exiting | finished | signalled | unchanged => exact tracked
  | registered process descriptor reference running member => rfl
  | released process descriptor reference present last =>
    simp only [Tracked] at tracked
    simp only [Tracked, follow, etxRelease, tracked]
    cases registration with
    | none => rfl
    | some r =>
      simp only [Option.bind_some, Option.map_some]
      by_cases same : r.process = process
      · rw [if_pos same]
        cases r.released with
        | true => rfl
        | false => simp [same]
      · rw [if_neg same]
        cases r.released with
        | true => rfl
        | false => simp [same]

/-- A tracked task is the process of a registration that has released nothing. -/
theorem task_eq_iff (registration : Option Registration) (system : System)
    (tracked : Tracked registration system) (process : Nat) :
    system.task = some process ↔
      ∃ r, registration = some r ∧ r.process = process ∧ r.released = false := by
  rw [tracked]
  cases registration with
  | none => simp
  | some r => cases released : r.released <;> simp [released]

section Alive

/-- The task is a process that has not finished exiting, and so is the target of the
next signal. -/
def Alive (system : System) : Prop :=
  (∀ process, system.task = some process → (system.life process).Present) ∧
    ∀ target, irqHandler system.task = some target → (system.life target).Present

/-- The handler signals the task. -/
theorem alive_of_task (system : System)
    (present : ∀ process, system.task = some process → (system.life process).Present) :
    Alive system :=
  ⟨present, present⟩

/-- A process that finishes exiting, and was the last to register, has dropped the last
reference to some open file since. -/
def ReleasesFirst (registration : Option Registration) (event : Event System Action) : Prop :=
  ∀ process r, event.call = .finish process → event.before.life process = .exiting →
    (∀ reference ∈ event.before.references, reference.holder ≠ process) →
      registration = some r → r.process = process → r.released = true

/-- Only the end of a process can lack a release. -/
theorem releases_of_other (registration : Option Registration) (system : System)
    (action : Action) (other : ∀ process, action ≠ .finish process) :
    ReleasesFirst registration ⟨system, action⟩ :=
  fun process _ same => absurd same (other process)

/-- When a process is gone, the task is alive exactly if it was not the last to have
registered, or has released. -/
theorem finished_alive_iff (registration : Option Registration) (system : System) (process : Nat)
    (tracked : Tracked registration system) (alive : Alive system) :
    Alive { system with life := Function.update system.life process .finished } ↔
      ∀ r, registration = some r → r.process = process → r.released = true := by
  constructor
  · intro left r registered isProcess
    by_contra unreleased
    have task := (task_eq_iff registration system tracked process).mpr
      ⟨r, registered, isProcess, Bool.eq_false_iff.mpr unreleased⟩
    have present := left.1 process task
    simp only [Function.update_self] at present
    exact absurd present (by decide)
  · intro releases
    apply alive_of_task
    intro other task
    have different : other ≠ process := by
      intro same
      obtain ⟨r, registered, isProcess, unreleased⟩ :=
        (task_eq_iff registration system tracked other).mp task
      have released := releases r registered (isProcess.trans same)
      rw [unreleased] at released
      exact Bool.false_ne_true released
    simp only [Function.update_of_ne different]
    exact alive.1 other task

/-- A step keeps the task alive exactly when it does not finish a registered process
that has released nothing. -/
theorem alive_iff (registration : Option Registration) (system next : System)
    (action : Action) (outcome : Outcome) (effect : Effect system action next outcome)
    (tracked : Tracked registration system) (alive : Alive system) :
    Alive next ↔ ReleasesFirst registration ⟨system, action⟩ := by
  have other := releases_of_other registration system
  cases effect with
  | opened | closed | signalled => exact iff_of_true alive (other _ (by simp))
  | forked process child unborn =>
    refine iff_of_true (alive_of_task _ ?_) (other _ (by simp))
    intro task isTask
    have present := alive.1 task isTask
    have different : task ≠ child := by
      rintro rfl
      rw [unborn] at present
      exact absurd present (by decide)
    simpa only [Function.update_of_ne different] using present
  | registered process descriptor reference running member =>
    refine iff_of_true (alive_of_task _ ?_) (other _ (by simp))
    intro task isTask
    rw [← Option.some.inj isTask]
    exact Or.inl running
  | released process descriptor reference present last =>
    refine iff_of_true (alive_of_task _ ?_) (other _ (by simp))
    intro task isTask
    simp only [etxRelease] at isTask
    split at isTask
    · contradiction
    · exact alive.1 task isTask
  | exiting process running =>
    refine iff_of_true (alive_of_task _ ?_) (other _ (by simp))
    intro task isTask
    by_cases same : task = process
    · rw [same]
      simp only [Function.update_self]
      exact Or.inr rfl
    · simp only [Function.update_of_ne same]
      exact alive.1 task isTask
  | finished process exiting none =>
    rw [finished_alive_iff registration system process tracked alive]
    constructor
    · rintro released _ r ⟨⟩ _ _
      exact released r
    · exact fun releases r => releases process r rfl exiting none
  | unchanged action early =>
    apply iff_of_true alive
    intro process r same exiting none
    exact absurd ⟨exiting, none⟩ (early process same)

/-- In every run, the task is a process that has not finished exiting in every state,
exactly when each process that finishes exiting as the last to have registered has
dropped the last reference to an open file since. -/
theorem task_alive_iff (running : Nat → Bool) (calls : List Action) :
    AtEachState step (start running) calls (fun _ system => Alive system) ↔
      AtEachCall step (start running) calls
        (fun history event => ReleasesFirst (lastRegistration history) event) := by
  refine history_throughout_iff step (fun history => Tracked (lastRegistration history))
    (fun _ => Alive) (fun _ _ => True)
    (fun history event => ReleasesFirst (lastRegistration history) event) ?_ ?_ (start running)
    calls rfl (alive_of_task _ (fun process impossible => by simp [start] at impossible))
    (fun _ _ _ => trivial)
  · intro history event tracked _
    rw [last_registration_append]
    exact tracked_kept _ _ _ _ _ (step_effect event.before event.call) tracked
  · intro history event tracked _ alive
    exact alive_iff _ _ _ _ _ (step_effect event.before event.call) tracked alive

/-- A process opens the device, forks, registers and exits; its child keeps the file. -/
def childKeepsFile : List Action :=
  [.openFile 0 3 0, .fork 0 1, .ioctl 0 3 .regCurrentTask, .exit 0, .close 0 3, .finish 0]

/-- The next interrupt sends its signal to the process that is gone. -/
theorem dead_task_signalled :
    (after step (start fun process => process == 0) childKeepsFile).life 0 = .finished ∧
      (step (after step (start fun process => process == 0) childKeepsFile) .interrupt).2 =
        .signalled (some 0) ∧
      ¬ AtEachState step (start fun process => process == 0) childKeepsFile
        (fun _ system => Alive system) := by
  refine ⟨by decide, by decide, fun alive => ?_⟩
  have present := (alive childKeepsFile List.prefix_rfl).1 0 (by decide)
  exact absurd present (by decide)

end Alive

section Remains

/-- While the file through which the last process has registered is open, and the
process has not finished exiting, it is the task. -/
def Remains (registration : Option Registration) (system : System) : Prop :=
  ∀ r, registration = some r → Held system.references r.file →
    (system.life r.process).Present → system.task = some r.process

/-- A registered process drops the last reference to no other open file while the one
through which it has registered is open. -/
def KeepsOthers (registration : Option Registration) (event : Event System Action) : Prop :=
  ∀ process file r, event.reply step = .released process file → registration = some r →
    r.process = process → Held event.before.references r.file → file = r.file

/-- Files that are open or have been registered through are used up, and a process that
has registered exists. -/
structure Named (registration : Option Registration) (system : System) : Prop where
  referenced : ∀ reference ∈ system.references, system.used reference.target = true
  registered : ∀ r, registration = some r → system.used r.file = true
  born : ∀ r, registration = some r → system.life r.process ≠ .unborn

/-- Every step keeps the names apart. -/
theorem named_kept (registration : Option Registration) (system next : System)
    (action : Action) (outcome : Outcome) (effect : Effect system action next outcome)
    (named : Named registration system) : Named (follow registration outcome) next := by
  obtain ⟨referenced, registered, born⟩ := named
  have moved (process : Nat) (life : Life) (alive : life ≠ .unborn) (r : Registration)
      (last : registration = some r) :
      Function.update system.life process life r.process ≠ .unborn := by
    by_cases same : r.process = process
    · rw [same, Function.update_self]
      exact alive
    · rw [Function.update_of_ne same]
      exact born r last
  cases effect with
  | opened process descriptor file fresh =>
    have stays (other : Nat) (before : system.used other = true) :
        Function.update system.used file true other = true := by
      by_cases same : other = file
      · rw [same, Function.update_self]
      · rwa [Function.update_of_ne same]
    refine ⟨?_, fun r last => stays r.file (registered r last), born⟩
    intro reference member
    rcases List.mem_cons.mp member with rfl | before
    · exact Function.update_self _ _ _
    · exact stays _ (referenced reference before)
  | forked process child unborn =>
    refine ⟨?_, registered, moved child .running (by simp)⟩
    intro reference member
    obtain ⟨original, before, same⟩ :=
      (held_share system.references process child reference.target).mp ⟨reference, member, rfl⟩
    rw [← same]
    exact referenced original before
  | registered process descriptor reference running member =>
    refine ⟨referenced, ?_, ?_⟩
    · rintro r same
      cases same
      exact referenced reference member
    · rintro r same
      cases same
      simp [running]
  | closed process descriptor reference shared =>
    exact ⟨fun kept member => referenced kept (List.mem_of_mem_erase member), registered, born⟩
  | released process descriptor reference present dropped =>
    refine ⟨fun kept member => referenced kept (List.mem_of_mem_erase member), ?_, ?_⟩
    · intro r followed
      obtain ⟨other, before, -, file⟩ := follow_released _ _ _ r followed
      rw [file]
      exact registered other before
    · intro r followed
      obtain ⟨other, before, same, -⟩ := follow_released _ _ _ r followed
      rw [same]
      exact born other before
  | exiting process running => exact ⟨referenced, registered, moved process .exiting (by simp)⟩
  | finished process exiting none =>
    exact ⟨referenced, registered, moved process .finished (by simp)⟩
  | signalled | unchanged => exact ⟨referenced, registered, born⟩

/-- When a process drops the last reference to a file, the registration is kept exactly
if it is of another process, or through this file, or through one that is not open. -/
theorem released_remains_iff (registration : Option Registration) (system : System)
    (process : Nat) (reference : Reference Nat Nat Nat) (present : (system.life process).Present)
    (dropped : ¬ Held (system.references.erase reference) reference.target)
    (remains : Remains registration system) :
    Remains (follow registration (.released process reference.target))
        { system with
          references := system.references.erase reference
          task := etxRelease system.task process } ↔
      ∀ r, registration = some r → r.process = process → Held system.references r.file →
        reference.target = r.file := by
  constructor
  · intro left r last isProcess held
    by_contra different
    have task := remains r last held (isProcess ▸ present)
    have stillHeld := (held_erase system.references reference r.file different).mpr held
    have followed : follow registration (.released process reference.target) =
        some { r with released := true } := by
      simp only [follow, last, Option.map_some, if_pos isProcess]
    have kept := left _ followed stillHeld (isProcess ▸ present)
    simp only [etxRelease, task, isProcess, if_true] at kept
    contradiction
  · intro keeps r followed held alive
    obtain ⟨other, last, isProcess, file⟩ := follow_released _ _ _ r followed
    rw [file] at held
    rw [isProcess] at alive ⊢
    have before := held_of_erase _ _ _ held
    have task := remains other last before alive
    have different : other.process ≠ process := by
      intro same
      have again := keeps other last same before
      rw [again] at dropped
      exact dropped held
    simp only [etxRelease, task, Option.some.injEq, if_neg different]

/-- A step keeps the registration exactly when it is not the registered process
dropping the last reference to another file. -/
theorem remains_iff (registration : Option Registration) (system next : System)
    (action : Action) (outcome : Outcome) (effect : Effect system action next outcome)
    (reply : (step system action).2 = outcome) (named : Named registration system)
    (remains : Remains registration system) :
    Remains (follow registration outcome) next ↔ KeepsOthers registration ⟨system, action⟩ := by
  have quiet (none : ∀ process file, outcome ≠ .released process file) :
      KeepsOthers registration ⟨system, action⟩ :=
    fun process file r released => absurd (reply.symm.trans released) (none process file)
  cases effect with
  | opened process descriptor file fresh =>
    refine iff_of_true ?_ (quiet (by simp))
    intro r last held present
    rcases (held_cons _ _ _).mp held with reopened | before
    · have used := named.registered r last
      rw [← reopened, fresh] at used
      exact absurd used Bool.false_ne_true
    · exact remains r last before present
  | forked process child unborn =>
    refine iff_of_true ?_ (quiet (by simp))
    intro r last held present
    have different : r.process ≠ child := by
      intro same
      have born := named.born r last
      rw [same] at born
      exact born unborn
    simp only [Function.update_of_ne different] at present
    exact remains r last ((held_share _ _ _ _).mp held) present
  | registered process descriptor reference running member =>
    refine iff_of_true ?_ (quiet (by simp))
    rintro r same - -
    cases same
    rfl
  | closed process descriptor reference shared =>
    refine iff_of_true ?_ (quiet (by simp))
    exact fun r last held present => remains r last (held_of_erase _ _ _ held) present
  | released process descriptor reference present dropped =>
    rw [released_remains_iff registration system process reference present dropped remains]
    constructor
    · intro keeps other file r released
      cases reply.symm.trans released
      exact keeps r
    · exact fun keeps r => keeps process reference.target r reply
  | exiting process running =>
    refine iff_of_true ?_ (quiet (by simp))
    intro r last held present
    apply remains r last held
    by_cases same : r.process = process
    · rw [same]
      exact Or.inl running
    · simpa only [Function.update_of_ne same] using present
  | finished process exiting none =>
    refine iff_of_true ?_ (quiet (by simp))
    intro r last held present
    have different : r.process ≠ process := by
      intro same
      simp only [same, Function.update_self] at present
      exact absurd present (by decide)
    simp only [Function.update_of_ne different] at present
    exact remains r last held present
  | signalled => exact iff_of_true remains (quiet (by simp))
  | unchanged => exact iff_of_true remains (quiet (by simp))

/-- In every run, a process that was the last to register is the task in every state in
which it has not finished exiting and the file through which it has registered is open,
exactly when no registered process drops the last reference to another open file while
that one is open. -/
theorem registration_remains_iff (running : Nat → Bool) (calls : List Action) :
    AtEachState step (start running) calls
        (fun history system => Remains (lastRegistration history) system) ↔
      AtEachCall step (start running) calls
        (fun history event => KeepsOthers (lastRegistration history) event) := by
  refine history_throughout_iff step (fun history => Named (lastRegistration history))
    (fun history => Remains (lastRegistration history)) (fun _ _ => True)
    (fun history event => KeepsOthers (lastRegistration history) event) ?_ ?_ (start running)
    calls ?_ ?_ (fun _ _ _ => trivial)
  · intro history event named _
    rw [last_registration_append]
    exact named_kept _ _ _ _ _ (step_effect event.before event.call) named
  · intro history event named _ remains
    rw [last_registration_append]
    exact remains_iff _ _ _ _ _ (step_effect event.before event.call) rfl named remains
  · exact ⟨fun reference member => absurd member List.not_mem_nil,
      fun r impossible => by simp [lastRegistration] at impossible,
      fun r impossible => by simp [lastRegistration] at impossible⟩
  · exact fun r impossible => by simp [lastRegistration] at impossible

/-- A process opens the device twice, registers through the first file, and closes the
second. -/
def closesSecondFile : List Action :=
  [.openFile 0 3 0, .openFile 0 4 1, .ioctl 0 3 .regCurrentTask, .close 0 4]

/-- The process runs and its first file is open, and no interrupt signals it. -/
theorem registration_lost :
    (after step (start fun process => process == 0) closesSecondFile).life 0 = .running ∧
      Held (after step (start fun process => process == 0) closesSecondFile).references 0 ∧
      (step (after step (start fun process => process == 0) closesSecondFile) .interrupt).2 =
        .signalled none ∧
      ¬ AtEachState step (start fun process => process == 0) closesSecondFile
        (fun history system => Remains (lastRegistration history) system) := by
  refine ⟨by decide, by decide, by decide, fun remains => ?_⟩
  have task := remains closesSecondFile List.prefix_rfl ⟨0, 0, true⟩ (by decide) (by decide)
    (by decide)
  exact absurd task (by decide)

end Remains

end LddExamples.SignalTargets
