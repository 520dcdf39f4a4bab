import LddExamples.Runs
import LddExamples.SharedReferences

/-!
# The signal driver

`027_sig_send/sigdrv.c` with the processes that use it. The driver remembers one task,
the last that has registered, and sends it a signal at each interrupt. A process opens
the device, shares its descriptors with a child, registers through any of them, and
closes them one by one, also while it exits; the last reference to an open file
releases it, with the closing process as the current one. An exit is finished when all
descriptors of the process are closed.

Processes and open files are named by numbers that are never used again. The command
argument, the siginfo and the messages are left out.
-/

namespace LddExamples.SignalDriver

open Runs SharedReferences

/-- A process before it is born, while it runs, while it exits and closes its descriptors,
and afterwards. -/
inductive Life where
  | unborn
  | running
  | exiting
  | finished
deriving DecidableEq

/-- The process exists, and has not finished exiting. -/
def Life.Present (life : Life) : Prop := life = .running ∨ life = .exiting

instance (life : Life) : Decidable life.Present :=
  inferInstanceAs (Decidable (life = .running ∨ life = .exiting))

/-- The driver's task, and the kernel's processes and open files. -/
structure System where
  task : Option Nat
  references : List (Reference Nat Nat Nat)
  life : Nat → Life
  used : Nat → Bool

/-- The one command of the driver, and every other number, which is answered with zero. -/
inductive Command where
  | regCurrentTask
  | other

/-- The process that the signal is sent to, if any. -/
def irqHandler (task : Option Nat) : Option Nat := task

/-- Registering puts the current process in the place of the one before; no reference to it
is taken. -/
def etxIoctl (task : Option Nat) (current : Nat) (command : Command) : Option Nat :=
  match command with
  | .regCurrentTask => some current
  | .other => task

/-- The release of an open file forgets the task if the process that drops the last
reference is the registered one, and does nothing otherwise. -/
def etxRelease (task : Option Nat) (current : Nat) : Option Nat :=
  if task = some current then none else task

/-- The steps of the processes, and the interrupts. A fork shares the descriptors of its
parent. -/
inductive Action where
  | openFile (process descriptor file : Nat)
  | fork (process child : Nat)
  | ioctl (process descriptor : Nat) (command : Command)
  | close (process descriptor : Nat)
  /-- The process begins to exit. -/
  | exit (process : Nat)
  /-- The process is gone. -/
  | finish (process : Nat)
  | interrupt

/-- What a step does, as the processes and the driver see it. -/
inductive Outcome where
  | quiet
  /-- The process has registered through the open file. -/
  | registered (process file : Nat)
  /-- The process has dropped the last reference to the open file. -/
  | released (process file : Nat)
  | signalled (target : Option Nat)
deriving DecidableEq

/-- One step; one that is not enabled changes nothing. -/
def step (system : System) : Action → System × Outcome
  | .openFile process descriptor file =>
      if system.life process = .running ∧ system.used file = false ∧
          lookup system.references process descriptor = none then
        ({ system with
            references := ⟨process, descriptor, file⟩ :: system.references
            used := Function.update system.used file true }, .quiet)
      else (system, .quiet)
  | .fork process child =>
      if system.life process = .running ∧ system.life child = .unborn then
        ({ system with
            references := share system.references process child
            life := Function.update system.life child .running }, .quiet)
      else (system, .quiet)
  | .ioctl process descriptor command =>
      if system.life process = .running then
        match lookup system.references process descriptor, command with
        | some reference, .regCurrentTask =>
            ({ system with task := etxIoctl system.task process .regCurrentTask },
              .registered process reference.target)
        | some _, .other =>
            ({ system with task := etxIoctl system.task process .other }, .quiet)
        | none, _ => (system, .quiet)
      else (system, .quiet)
  | .close process descriptor =>
      if (system.life process).Present then
        match lookup system.references process descriptor with
        | some reference =>
            let references := system.references.erase reference
            if Held references reference.target then
              ({ system with references := references }, .quiet)
            else
              ({ system with references := references, task := etxRelease system.task process },
                .released process reference.target)
        | none => (system, .quiet)
      else (system, .quiet)
  | .exit process =>
      if system.life process = .running then
        ({ system with life := Function.update system.life process .exiting }, .quiet)
      else (system, .quiet)
  | .finish process =>
      if system.life process = .exiting ∧
          ∀ reference ∈ system.references, reference.holder ≠ process then
        ({ system with life := Function.update system.life process .finished }, .quiet)
      else (system, .quiet)
  | .interrupt => (system, .signalled (irqHandler system.task))

/-- The loaded driver, with any processes running and no open file. -/
def start (running : Nat → Bool) : System :=
  ⟨none, [], fun process => if running process then .running else .unborn, fun _ => false⟩

/-- What a step does to the system. -/
inductive Effect (system : System) : Action → System → Outcome → Prop
  | opened (process descriptor file : Nat) (fresh : system.used file = false) :
      Effect system (.openFile process descriptor file)
        { system with
          references := ⟨process, descriptor, file⟩ :: system.references
          used := Function.update system.used file true } .quiet
  | forked (process child : Nat) (unborn : system.life child = .unborn) :
      Effect system (.fork process child)
        { system with
          references := share system.references process child
          life := Function.update system.life child .running } .quiet
  | registered (process descriptor : Nat) (reference : Reference Nat Nat Nat)
      (running : system.life process = .running) (member : reference ∈ system.references) :
      Effect system (.ioctl process descriptor .regCurrentTask)
        { system with task := some process } (.registered process reference.target)
  | closed (process descriptor : Nat) (reference : Reference Nat Nat Nat)
      (shared : Held (system.references.erase reference) reference.target) :
      Effect system (.close process descriptor)
        { system with references := system.references.erase reference } .quiet
  | released (process descriptor : Nat) (reference : Reference Nat Nat Nat)
      (present : (system.life process).Present)
      (last : ¬ Held (system.references.erase reference) reference.target) :
      Effect system (.close process descriptor)
        { system with
          references := system.references.erase reference
          task := etxRelease system.task process } (.released process reference.target)
  | exiting (process : Nat) (running : system.life process = .running) :
      Effect system (.exit process)
        { system with life := Function.update system.life process .exiting } .quiet
  | finished (process : Nat) (exiting : system.life process = .exiting)
      (none : ∀ reference ∈ system.references, reference.holder ≠ process) :
      Effect system (.finish process)
        { system with life := Function.update system.life process .finished } .quiet
  | signalled : Effect system .interrupt system (.signalled (irqHandler system.task))
  | unchanged (action : Action)
      (early : ∀ process, action = .finish process →
        ¬ (system.life process = .exiting ∧
          ∀ reference ∈ system.references, reference.holder ≠ process)) :
      Effect system action system .quiet

/-- Every step has one of these effects. -/
theorem step_effect (system : System) (action : Action) :
    Effect system action (step system action).1 (step system action).2 := by
  cases action with
  | openFile process descriptor file =>
    simp only [step]
    split
    · next enabled => exact .opened process descriptor file enabled.2.1
    · exact .unchanged _ (by simp)
  | fork process child =>
    simp only [step]
    split
    · next enabled => exact .forked process child enabled.2
    · exact .unchanged _ (by simp)
  | ioctl process descriptor command =>
    simp only [step]
    split
    · next running =>
      cases found : lookup system.references process descriptor with
      | none => exact .unchanged _ (by simp)
      | some reference =>
        cases command with
        | regCurrentTask =>
          exact .registered process descriptor reference running (lookup_mem _ _ _ _ found).1
        | other => exact .unchanged _ (by simp)
    · exact .unchanged _ (by simp)
  | close process descriptor =>
    simp only [step]
    split
    · next present =>
      cases found : lookup system.references process descriptor with
      | none => exact .unchanged _ (by simp)
      | some reference =>
        simp only
        split
        · next shared => exact .closed process descriptor reference shared
        · next last => exact .released process descriptor reference present last
    · exact .unchanged _ (by simp)
  | exit process =>
    simp only [step]
    split
    · next running => exact .exiting process running
    · exact .unchanged _ (by simp)
  | finish process =>
    simp only [step]
    split
    · next enabled => exact .finished process enabled.1 enabled.2
    · next early =>
      refine .unchanged _ ?_
      rintro other same
      cases same
      exact early
  | interrupt => exact .signalled

end LddExamples.SignalDriver
