import LddExamples.KernelInterface
import LddExamples.ResourceLog
import LddExamples.Runs

/-!
# Drivers that are loaded again and again

`storage_driver_init` of `003_char_block_storage_device/storage_kernel.c`, `dev_init` of
`011_chrdev_skeleton/driver.c`, `irq_init` of `021_interrupt_handler/irq_handler_kernel.c` and
`led_rgb_init` of `006_led_sysfs_attr/led_rgb_sysfs_attr.c`, with the exits, over runs in which
a driver is loaded and unloaded any number of times. Each call of a kernel function may fail,
and fails if what it would register is still there. A pointer that carries an error is its
error; a null pointer has none of its own. What a driver sets up of its own data, and the log,
are left out.
-/

namespace LddExamples.DriverLoading

open Runs KernelInterface ResourceLog

/-- What the drivers acquire. -/
inductive Resource where
  | region
  | cdev
  | driverClass
  | device
  | attrGroup
  | kobject
deriving DecidableEq

/-- Which calls fail, and with what error. -/
abbrev Environment := Resource → Option Errno

/-- What an initialisation returns, and its log. -/
structure Loading where
  ret : Int
  log : List (Entry Resource)

/-- A call that acquires a resource: after its error come the listed releases and the return,
otherwise the rest. -/
def acquire (environment : Environment) (resource : Resource) (releases : List Resource)
    (rest : Loading) : Loading :=
  match environment resource with
  | some error => ⟨error.ret, releases.map .release⟩
  | none => ⟨rest.ret, .acquire resource :: rest.log⟩

/-- Nothing is left to acquire. -/
def done : Loading := ⟨0, []⟩

/-- `storage_driver_init`: what each failure has to release is what was acquired before, in
reverse order. -/
def storageDriverInit (environment : Environment) : Loading :=
  acquire environment .region [] <|
  acquire environment .cdev [.region] <|
  acquire environment .driverClass [.cdev, .region] <|
  acquire environment .device [.driverClass, .cdev, .region]
  done

/-- `storage_driver_exit` -/
def storageDriverExit : List (Entry Resource) :=
  [.release .device, .release .driverClass, .release .cdev, .release .region]

/-- `dev_init`, with the same steps. -/
def devInit (environment : Environment) : Loading :=
  acquire environment .region [] <|
  acquire environment .cdev [.region] <|
  acquire environment .driverClass [.cdev, .region] <|
  acquire environment .device [.driverClass, .cdev, .region]
  done

/-- `dev_exit` -/
def devExit : List (Entry Resource) :=
  [.release .device, .release .driverClass, .release .cdev, .release .region]

/-- `irq_init`, with the group of attributes as its last step. -/
def irqInit (environment : Environment) : Loading :=
  acquire environment .region [] <|
  acquire environment .cdev [.region] <|
  acquire environment .driverClass [.cdev, .region] <|
  acquire environment .device [.driverClass, .cdev, .region] <|
  acquire environment .attrGroup [.device, .driverClass, .cdev, .region]
  done

/-- `irq_exit` -/
def irqExit : List (Entry Resource) :=
  [.release .attrGroup, .release .device, .release .driverClass, .release .cdev, .release .region]

/-- The kobject stays if its attributes cannot be added, and it takes them with it if it goes. -/
def ledRgbInit (environment : Environment) : Loading :=
  match environment .kobject with
  | some _ => ⟨-enomem, []⟩
  | none =>
      match environment .attrGroup with
      | some error => ⟨error.ret, [.acquire .kobject]⟩
      | none => ⟨0, [.acquire .kobject]⟩

/-- `led_rgb_exit` -/
def ledRgbExit : List (Entry Resource) := [.release .kobject]

/-- The four drivers. -/
inductive Driver where
  | storage
  | skeleton
  | interrupt
  | led
deriving DecidableEq

/-- The loading of a driver. -/
def Driver.init : Driver → Environment → Loading
  | .storage => storageDriverInit
  | .skeleton => devInit
  | .interrupt => irqInit
  | .led => ledRgbInit

/-- The unloading of a driver. -/
def Driver.exit : Driver → List (Entry Resource)
  | .storage => storageDriverExit
  | .skeleton => devExit
  | .interrupt => irqExit
  | .led => ledRgbExit

/-- What is registered, the latest first, unless something has been released out of turn; and
whether the module is loaded. -/
structure Kernel where
  held : Option (List Resource)
  loaded : Bool

/-- Loading a driver, with what fails on the way, and unloading it. -/
inductive Call where
  | load (environment : Environment)
  | unload

/-- What is registered already fails like what the environment lets fail. -/
def meets (held : List Resource) (environment : Environment) : Environment := fun resource =>
  if resource ∈ held then some ⟨17, by decide, by decide⟩ else environment resource

/-- One call, with what loading returns. A module is loaded once, and unloaded if it is
loaded. -/
def step (driver : Driver) (kernel : Kernel) : Call → Kernel × Option Int
  | .load environment =>
      if kernel.loaded then (kernel, none)
      else
        let held := kernel.held.getD []
        let loading := driver.init (meets held environment)
        (⟨kernel.held.bind (replay · loading.log), loading.ret = 0⟩, some loading.ret)
  | .unload =>
      if kernel.loaded then (⟨kernel.held.bind (replay · driver.exit), false⟩, none)
      else (kernel, none)

/-- A driver that is not loaded, with nothing held. -/
def start : Kernel := ⟨some [], false⟩

/-- What a driver registers, in order. -/
def Driver.registers : Driver → List Resource
  | .storage | .skeleton => [.region, .cdev, .driverClass, .device]
  | .interrupt => [.region, .cdev, .driverClass, .device, .attrGroup]
  | .led => [.kobject]

/-- The calls of an initialisation, in order. -/
def Driver.calls : Driver → List Resource
  | .led => [.kobject, .attrGroup]
  | driver => driver.registers

/-- What is returned for a call that has failed. -/
def reported (resource : Resource) (error : Errno) : Int :=
  if resource = .kobject then -enomem else error.ret

/-- The error of the first call that fails, or zero. -/
def firstError (driver : Driver) (environment : Environment) : Int :=
  (driver.calls.findSome? fun resource => (environment resource).map (reported resource)).getD 0

/-- The load fails after it has registered the kobject. -/
def Strands (driver : Driver) (environment : Environment) : Prop :=
  driver = .led ∧ environment .kobject = none ∧ environment .attrGroup ≠ none

/-- Acquiring resources one after the other; the first error releases those before it, the
latest first. -/
def climb (environment : Environment) : List Resource → List Resource → Loading
  | _, [] => done
  | held, resource :: later =>
      acquire environment resource held (climb environment (resource :: held) later)

/-- A climb returns its first error and leaves nothing, or acquires everything. -/
theorem climb_spec (environment : Environment) (held later : List Resource) :
    (later.findSome? environment = none ∧ (climb environment held later).ret = 0 ∧
        replay held (climb environment held later).log = some (later.reverse ++ held)) ∨
      ∃ error, later.findSome? environment = some error ∧
        (climb environment held later).ret = error.ret ∧
        replay held (climb environment held later).log = some [] := by
  induction later generalizing held with
  | nil => exact Or.inl ⟨rfl, rfl, rfl⟩
  | cons resource later inductionHypothesis =>
    simp only [climb, acquire, List.findSome?_cons]
    cases environment resource with
    | some error =>
      have unwound := replay_unwinding [] held.reverse
      rw [unwinding, List.reverse_reverse, List.append_nil] at unwound
      exact Or.inr ⟨error, rfl, rfl, unwound⟩
    | none =>
      simp only [replay]
      rcases inductionHypothesis (resource :: held) with ⟨all, ret, left⟩ | ⟨error, some, ret, left⟩
      · refine Or.inl ⟨all, ret, left.trans ?_⟩
        rw [List.reverse_cons, List.append_assoc, List.singleton_append]
      · exact Or.inr ⟨error, some, ret, left⟩

/-- Each driver without a kobject climbs. -/
theorem init_climbs (driver : Driver) (environment : Environment) (other : driver ≠ .led) :
    driver.init environment = climb environment [] driver.registers := by
  cases driver with
  | storage | skeleton | interrupt => rfl
  | led => exact absurd rfl other

/-- A call other than the creation of the kobject reports its own error. -/
theorem first_reported (environment : Environment) (resources : List Resource)
    (without : Resource.kobject ∉ resources) :
    (resources.findSome? fun resource => (environment resource).map (reported resource)) =
      (resources.findSome? environment).map Errno.ret := by
  induction resources with
  | nil => rfl
  | cons resource resources inductionHypothesis =>
    obtain ⟨other, later⟩ : ¬ .kobject = resource ∧ .kobject ∉ resources :=
      not_or.mp (fun member => without (List.mem_cons.mpr member))
    rw [List.findSome?_cons, List.findSome?_cons]
    cases environment resource with
    | none => exact inductionHypothesis later
    | some error => exact congrArg some (if_neg (Ne.symm other))

/-- What loading returns and leaves where nothing is registered. -/
theorem init_spec (driver : Driver) (environment : Environment) :
    (driver.init environment).ret = firstError driver environment ∧
      replay [] (driver.init environment).log = some
        (if (driver.init environment).ret = 0 then driver.registers.reverse
          else if driver = .led ∧ environment .kobject = none then [.kobject] else []) := by
  by_cases led : driver = .led
  · subst led
    simp only [Driver.init, ledRgbInit, firstError, Driver.calls, Driver.registers,
      List.findSome?_cons, List.findSome?_nil]
    cases kobject : environment .kobject with
    | some error => exact ⟨rfl, rfl⟩
    | none =>
      cases attrGroup : environment .attrGroup with
      | none => exact ⟨rfl, rfl⟩
      | some error =>
        have negative := error.ret_neg
        refine ⟨rfl, ?_⟩
        rw [if_neg (by simp only; omega), if_pos (by simp)]
        rfl
  · have plain : firstError driver environment =
        ((driver.registers.findSome? environment).map Errno.ret).getD 0 := by
      have calls : driver.calls = driver.registers := by
        cases driver <;> first | rfl | exact absurd rfl led
      have without : Resource.kobject ∉ driver.registers := by
        cases driver <;> first | decide | exact absurd rfl led
      rw [firstError, calls, first_reported environment driver.registers without]
    rw [init_climbs driver environment led, plain]
    rcases climb_spec environment [] driver.registers with
      ⟨all, ret, left⟩ | ⟨error, some, ret, left⟩
    · rw [all, ret, left, if_pos rfl, List.append_nil]
      exact ⟨rfl, rfl⟩
    · have negative := error.ret_neg
      rw [some, ret, left, if_neg (by omega), if_neg (fun both => led both.1)]
      exact ⟨rfl, rfl⟩

/-- The kobject is left behind by a load that fails once there is one. -/
theorem strands_iff (driver : Driver) (environment : Environment) :
    Strands driver environment ↔ (driver.init environment).ret ≠ 0 ∧
      driver = .led ∧ environment .kobject = none := by
  constructor
  · rintro ⟨rfl, kobject, attrGroup⟩
    refine ⟨?_, rfl, kobject⟩
    cases group : environment .attrGroup with
    | none => exact absurd group attrGroup
    | some error =>
      have negative := error.ret_neg
      simp only [Driver.init, ledRgbInit, kobject, group]
      omega
  · rintro ⟨fails, rfl, kobject⟩
    refine ⟨rfl, kobject, fun none => fails ?_⟩
    simp only [Driver.init, ledRgbInit, kobject, none]

/-- Unloading releases what loading has registered. -/
theorem exit_spec (driver : Driver) : replay driver.registers.reverse driver.exit = some [] := by
  cases driver <;> rfl

/-- What is registered is what the loaded module has registered. -/
def Tidy (driver : Driver) (kernel : Kernel) : Prop :=
  kernel.held = some (if kernel.loaded then driver.registers.reverse else [])

/-- The call is a load that leaves the kobject behind. -/
def Leaves (driver : Driver) (event : Event Kernel Call) : Prop :=
  ∃ environment, event.call = .load environment ∧ event.before.loaded = false ∧
    Strands driver environment

/-- Where nothing is registered, only the environment decides. -/
theorem meets_nothing (environment : Environment) : meets [] environment = environment := by
  funext resource
  exact if_neg List.not_mem_nil

/-- A call in a tidy kernel: a load returns the first error, and only one that leaves the kobject
behind ends the order. -/
theorem tidy_step (driver : Driver) (event : Event Kernel Call)
    (tidy : Tidy driver event.before) :
    (Tidy driver (event.left (step driver)) ↔ ¬ Leaves driver event) ∧
      ∀ environment, event.call = .load environment → event.before.loaded = false →
        event.reply (step driver) = some (firstError driver environment) := by
  obtain ⟨⟨held, loaded⟩, call⟩ := event
  obtain rfl : held = some (if loaded then driver.registers.reverse else []) := tidy
  cases call with
  | unload =>
    refine ⟨iff_of_true ?_ (fun ⟨_, same, _⟩ => by cases same), fun _ same => by cases same⟩
    cases loaded with
    | false => rfl
    | true =>
      have released := exit_spec driver
      simp only [Tidy, Event.left, step, if_true, Option.bind_some, released]
      rfl
  | load environment =>
    cases loaded with
    | true =>
      exact ⟨iff_of_true rfl (fun ⟨_, _, running, _⟩ => by cases running),
        fun _ _ running => by cases running⟩
    | false =>
      obtain ⟨ret, left⟩ := init_spec driver environment
      simp only [Event.left, Event.reply, step, Bool.false_eq_true, if_false, Option.getD_some,
        meets_nothing, Option.bind_some, left, Tidy]
      refine ⟨?_, ?_⟩
      · have strands : Leaves driver ⟨⟨some [], false⟩, .load environment⟩ ↔
            Strands driver environment := by
          constructor
          · rintro ⟨other, same, _, stranded⟩
            rwa [Call.load.inj same]
          · exact fun stranded => ⟨environment, rfl, rfl, stranded⟩
        rw [strands, strands_iff]
        by_cases succeeds : (driver.init environment).ret = 0
        · simp [succeeds]
        · by_cases kobject : driver = .led ∧ environment .kobject = none
          · rw [if_neg succeeds, if_pos kobject, decide_eq_false succeeds]
            exact iff_of_false (by simp) (fun tidy => tidy ⟨succeeds, kobject⟩)
          · simp only [succeeds, kobject, if_false, decide_false, Bool.false_eq_true, and_false,
              not_false_eq_true]
      · intro other same _
        rw [ret, Call.load.inj same]

/-- A kernel in which the kobject has been left behind. -/
def stranded : Kernel := ⟨some [.kobject], false⟩

/-- A load that leaves the kobject behind leaves nothing else. -/
theorem leaves_left (driver : Driver) (event : Event Kernel Call)
    (tidy : Tidy driver event.before) (leaves : Leaves driver event) :
    driver = .led ∧ event.left (step driver) = stranded := by
  obtain ⟨⟨held, loaded⟩, call⟩ := event
  obtain ⟨environment, same, fresh, strands⟩ := leaves
  obtain rfl : call = .load environment := same
  obtain rfl : loaded = false := fresh
  obtain rfl : held = some [] := tidy
  obtain ⟨fails, led, kobject⟩ := (strands_iff driver environment).mp strands
  obtain ⟨_, left⟩ := init_spec driver environment
  refine ⟨led, ?_⟩
  simp only [Event.left, step, Bool.false_eq_true, if_false, Option.getD_some, meets_nothing,
    Option.bind_some, left, if_neg fails, if_pos (And.intro led kobject), decide_eq_false fails]
  rfl

/-- Where the kobject has been left behind, no load gets further than its creation. -/
theorem stranded_stays (call : Call) :
    (step .led stranded call).1 = stranded ∧
      ∀ ret, (step .led stranded call).2 = some ret → ret = -enomem := by
  cases call with
  | unload => exact ⟨rfl, fun _ impossible => by cases impossible⟩
  | load environment => exact ⟨rfl, fun _ same => (Option.some.inj same).symm⟩

/-- In every run of loads and unloads, what is registered is in each state exactly what the
loaded module has registered, if and only if no load of the LED driver fails once there is a
kobject. Until then every load returns the error of the first call that fails, or zero; after
such a load, nothing changes any more, and every load returns `-ENOMEM`. -/
theorem loads_tidy_iff (driver : Driver) (calls : List Call) :
    ((∀ earlier, earlier <+: calls → Tidy driver (after (step driver) start earlier)) ↔
        ∀ event ∈ trace (step driver) start calls, ¬ Leaves driver event) ∧
      (∀ event ∈ trace (step driver) start calls, Tidy driver event.before →
        ∀ environment, event.call = .load environment → event.before.loaded = false →
          event.reply (step driver) = some (firstError driver environment)) ∧
      (∀ event ∈ trace (step driver) start calls, Tidy driver event.before →
        Leaves driver event → ∀ later,
        ∀ next ∈ trace (step driver) (event.left (step driver)) later,
          next.before = event.left (step driver) ∧
            ∀ ret, next.reply (step driver) = some ret → ret = -enomem) := by
  refine ⟨?_, fun event _ tidy => (tidy_step driver event tidy).2, ?_⟩
  · exact throughout_iff (step driver) (fun _ => True) (Tidy driver)
      (fun event => ¬ Leaves driver event) (fun _ _ _ => trivial)
      (fun event _ tidy => (tidy_step driver event tidy).1) start calls trivial rfl
  · intro event _ tidy leaves later next member
    obtain ⟨rfl, left⟩ := leaves_left driver event tidy leaves
    rw [left] at member ⊢
    have stays : next.before = stranded :=
      invariant_met (step .led) (fun kernel => kernel = stranded)
        (fun kernel call same => by rw [same]; exact (stranded_stays call).1)
        stranded later rfl next member
    refine ⟨stays, ?_⟩
    rw [Event.reply, stays]
    exact (stranded_stays next.call).2

end LddExamples.DriverLoading
