import LddExamples.KernelInterface

/-!
# The keyboard sniffer

`022_keyboard_interrupt/keyb_driver_isr.c`: a handler on a shared interrupt line that
schedules a work item. The line holds the identifiers under which handlers have been
requested, this module's and those of other drivers; freeing removes the handler with
the given identifier, if there is one. The module requests its handler under the
address of the work item, and frees the one under the address of the handler. The
messages are left out.
-/

namespace LddExamples.KeyboardSniffer

open KernelInterface

/-- The `dev_id` of a handler. -/
inductive DevId where
  | kbWork
  | keyboardIrqHandler
  | other (driver : Nat)
deriving DecidableEq

/-- The module before its loading, between its loading and its unloading, and after that. It
is not loaded again. -/
inductive Stage where
  | absent
  | loaded
  | unloaded
deriving DecidableEq

/-- The interrupt line, the work item and the module. -/
structure System where
  handlers : List DevId
  workPending : Bool
  stage : Stage

/-- `free_irq` removes the handler that was requested under the identifier. Without one, the
kernel warns and changes nothing. -/
def freeIrq (handlers : List DevId) (devId : DevId) : List DevId := handlers.erase devId

/-- The handler schedules the work item; one that is scheduled already stays so. That it
answers with `IRQ_NONE` is left out. -/
def keyboardIrqHandler (system : System) : System := { system with workPending := true }

/-- The result of requesting the line is the environment's. -/
def keyboardDriverInit (system : System) (requested : Option Errno) : System × Int :=
  match requested with
  | some _ => (system, -1)
  | none => ({ system with handlers := system.handlers ++ [.kbWork], stage := .loaded }, 0)

/-- Unloading frees under an identifier that was never requested. The work item is not
waited for. -/
def keyboardDriverExit (system : System) : System :=
  { system with handlers := freeIrq system.handlers .keyboardIrqHandler, stage := .unloaded }

/-- The steps of the module, of its interrupts and its work item, and of the other drivers
on the line. -/
inductive Call where
  | init (requested : Option Errno)
  /-- An interrupt on the line. -/
  | interrupt
  | runWork
  | exit
  | otherRequest (driver : Nat)
  | otherFree (driver : Nat)

/-- One step; one that is not enabled changes nothing. -/
def step (system : System) : Call → System × Int
  | .init requested =>
      if system.stage = .absent then keyboardDriverInit system requested else (system, 0)
  | .interrupt =>
      if .kbWork ∈ system.handlers then (keyboardIrqHandler system, 0) else (system, 0)
  | .runWork => ({ system with workPending := false }, 0)
  | .exit => if system.stage = .loaded then (keyboardDriverExit system, 0) else (system, 0)
  | .otherRequest driver => ({ system with handlers := system.handlers ++ [.other driver] }, 0)
  | .otherFree driver => ({ system with handlers := freeIrq system.handlers (.other driver) }, 0)

/-- The line before the module is loaded, with the handlers of other drivers. -/
def start (drivers : List Nat) : System := ⟨drivers.map .other, false, .absent⟩

/-- From its loading on, the module's handler is on the line. -/
def Registered (system : System) : Prop := system.stage ≠ .absent → .kbWork ∈ system.handlers

/-- No call takes the module's handler off the line: the module frees another one. -/
theorem registered_kept (system : System) (call : Call) (registered : Registered system) :
    Registered (step system call).1 := by
  have freed (devId : DevId) (different : .kbWork ≠ devId) (member : .kbWork ∈ system.handlers) :
      .kbWork ∈ freeIrq system.handlers devId :=
    (List.mem_erase_of_ne different).mpr member
  cases call with
  | init requested =>
    simp only [step]
    split
    · cases requested with
      | some error => exact registered
      | none => exact fun _ => List.mem_append_right _ List.mem_cons_self
    · exact registered
  | interrupt =>
    simp only [step]
    split
    · exact registered
    · exact registered
  | runWork => exact registered
  | exit =>
    simp only [step]
    split
    · next loaded => exact fun _ => freed _ (by simp) (registered (by rw [loaded]; simp))
    · exact registered
  | otherRequest driver => exact fun present => List.mem_append_left _ (registered present)
  | otherFree driver => exact fun present => freed _ (by simp) (registered present)

end LddExamples.KeyboardSniffer
