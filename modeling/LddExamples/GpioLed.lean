import LddExamples.Runs
import LddExamples.SignedDecimals
import LddExamples.StringBuffers

/-!
# The LED on an output line

`007_gpiod_sysfs_led/gpiod_led_sysfs.c`: an attribute whose stores scan a number and set the
line of the LED from it. Every probe gets the line low, and a removal first gives the line back
and then takes the attribute away. The number is static, and outlives a removal. A line that is
held is busy for everybody who asks for it. The log is left out.

The bytes that are stored lie on a page, with a terminator behind them.
-/

namespace LddExamples.GpioLed

open Runs KernelInterface StringBuffers SensorControl SignedDecimals

/-- `EBUSY` -/
@[simp] def ebusy : Int := 16

/-- Whether there is an attribute, and after that whether its line has been given back. -/
inductive Stage where
  | unbound
  | bound
  | lineReleased
deriving DecidableEq

/-- `led_state`, the level of the line, and whether the line is held. -/
structure Led where
  ledState : BitVec 32
  line : Bool
  held : Bool
  stage : Stage

/-- The environment decides how the requests of a probe go. -/
inductive Call where
  | probe (get : Option Int) (kobject : Bool) (group : Option Int)
  | gpiodPut
  | kobjectPut
  | read
  | write (buf : List UInt8)

/-- `gpiod_get` fails on a line that is held, or as the environment wants; else it holds the
line and sets it low. -/
def gpiodGet (led : Led) (get : Option Int) : Except Int Led :=
  if led.held then .error (-ebusy)
  else
    match get with
    | some error => .error error
    | none => .ok { led with line := false, held := true }

/-- A probe gets the line first, then the object and its attribute. If one of these fails it
returns the error with the line in its hands, and nothing gives it back. -/
def gpioLedProbe (led : Led) (get : Option Int) (kobject : Bool) (group : Option Int) :
    Led × Int :=
  match gpiodGet led get with
  | .error error => (led, error)
  | .ok led =>
      if kobject = false then (led, -enomem)
      else
        match group with
        | some ret => (led, ret)
        | none => ({ led with stage := .bound }, 0)

/-- The attribute shows the number, not the level of the line. -/
def valueShow (led : Led) : Reply :=
  let text := printInt led.ledState.toInt ++ [newline]
  ⟨text.length, text⟩

/-- Without a number in the buffer, `led_state` stays; the line is set in either case. -/
def valueStore (led : Led) (buf : List UInt8) : Led × Int :=
  let ledState := (scanInt (beforeZero buf)).getD led.ledState
  ({ led with ledState := ledState, line := decide (ledState ≠ 0) }, buf.length)

/-- One step, with its reply if it was possible: a removal has two, and the attribute is there
until the second. -/
def step (led : Led) : Call → Led × Option Reply
  | .probe get kobject group =>
      if led.stage = .unbound then
        let (led, ret) := gpioLedProbe led get kobject group
        (led, some ⟨ret, []⟩)
      else (led, none)
  | .gpiodPut =>
      if led.stage = .bound then ({ led with held := false, stage := .lineReleased }, some ⟨0, []⟩)
      else (led, none)
  | .kobjectPut =>
      if led.stage = .lineReleased then ({ led with stage := .unbound }, some ⟨0, []⟩)
      else (led, none)
  | .read => if led.stage = .unbound then (led, none) else (led, some (valueShow led))
  | .write buf =>
      if led.stage = .unbound then (led, none)
      else
        let (led, ret) := valueStore led buf
        (led, some ⟨ret, []⟩)

/-- The driver as it is loaded: no device is bound, and nobody holds the line. -/
def loaded : Led := ⟨0, false, false, .unbound⟩

/-- The probe gets the line and what else it needs. -/
def Binds (event : Event Led Call) : Prop :=
  event.call = .probe none true none ∧ event.before.stage = .unbound ∧
    event.before.held = false

/-- The probe gets the line, and fails after that. -/
def Leaks (event : Event Led Call) : Prop :=
  ∃ kobject group, event.call = .probe none kobject group ∧ (kobject = false ∨ group ≠ none) ∧
    event.before.stage = .unbound ∧ event.before.held = false

/-- A probe that fails with the line in its hands keeps it. -/
theorem leaks_left (event : Event Led Call) (leaks : Leaks event) :
    event.left step = { event.before with line := false, held := true } := by
  obtain ⟨led, call⟩ := event
  obtain ⟨kobject, group, same, fails, stage, free⟩ := leaks
  simp only at same stage free
  subst same
  simp only [Event.left, step, stage, if_true, gpioLedProbe, gpiodGet, free, Bool.false_eq_true,
    if_false]
  rcases fails with rfl | some
  · rfl
  · cases group with
    | none => exact absurd rfl some
    | some ret => cases kobject <;> rfl

/-- Only a probe binds the LED or leaks the line. -/
theorem not_probe (event : Event Led Call)
    (other : ∀ get kobject group, event.call ≠ .probe get kobject group) :
    ¬ Binds event ∧ ¬ Leaks event := by
  constructor
  · rintro ⟨same, _⟩
    exact other _ _ _ same
  · rintro ⟨_, _, same, _⟩
    exact other _ _ _ same

/-- What a call does to the LED. -/
inductive Effect (event : Event Led Call) : Led → Prop
  | bound (binds : Binds event) :
      Effect event { event.before with line := false, held := true, stage := .bound }
  | leaked (leaks : Leaks event) :
      Effect event { event.before with line := false, held := true }
  | released (call : event.call = .gpiodPut) (stage : event.before.stage = .bound) :
      Effect event { event.before with held := false, stage := .lineReleased }
  | removed (call : event.call = .kobjectPut) (stage : event.before.stage = .lineReleased) :
      Effect event { event.before with stage := .unbound }
  | stored (buf : List UInt8) (call : event.call = .write buf)
      (stage : event.before.stage ≠ .unbound) : Effect event (valueStore event.before buf).1
  | unchanged (binds : ¬ Binds event) (leaks : ¬ Leaks event)
      (quiet : ∀ buf, event.call = .write buf → event.before.stage = .unbound) :
      Effect event event.before

/-- Every call has one of these effects. -/
theorem step_effect (event : Event Led Call) : Effect event (event.left step) := by
  obtain ⟨led, call⟩ := event
  cases call with
  | probe get kobject group =>
    by_cases possible : led.stage = .unbound ∧ led.held = false ∧ get = none
    · obtain ⟨stage, free, rfl⟩ := possible
      by_cases complete : kobject = true ∧ group = none
      · obtain ⟨rfl, rfl⟩ := complete
        have left : Event.left step ⟨led, .probe none true none⟩ =
            { led with line := false, held := true, stage := .bound } := by
          simp [Event.left, step, stage, gpioLedProbe, gpiodGet, free]
        rw [left]
        exact .bound ⟨rfl, stage, free⟩
      · have fails : kobject = false ∨ group ≠ none := by
          cases kobject with
          | false => exact Or.inl rfl
          | true => exact Or.inr fun none => complete ⟨rfl, none⟩
        have leaks : Leaks ⟨led, .probe none kobject group⟩ :=
          ⟨kobject, group, rfl, fails, stage, free⟩
        rw [leaks_left _ leaks]
        exact .leaked leaks
    · have left : Event.left step ⟨led, .probe get kobject group⟩ = led := by
        simp only [Event.left, step]
        split
        · next stage =>
          cases held : led.held with
          | true => simp [gpioLedProbe, gpiodGet, held]
          | false =>
            cases get with
            | none => exact absurd ⟨stage, held, rfl⟩ possible
            | some error => simp [gpioLedProbe, gpiodGet, held]
        · rfl
      rw [left]
      refine .unchanged ?_ ?_ (fun _ impossible => by cases impossible)
      · rintro ⟨same, stage, free⟩
        exact possible ⟨stage, free, (Call.probe.inj same).1⟩
      · rintro ⟨_, _, same, _, stage, free⟩
        exact possible ⟨stage, free, (Call.probe.inj same).1⟩
  | gpiodPut =>
    obtain ⟨binds, leaks⟩ := not_probe ⟨led, .gpiodPut⟩ (by simp)
    simp only [Event.left, step]
    split
    · next stage => exact .released rfl stage
    · exact .unchanged binds leaks (by simp)
  | kobjectPut =>
    obtain ⟨binds, leaks⟩ := not_probe ⟨led, .kobjectPut⟩ (by simp)
    simp only [Event.left, step]
    split
    · next stage => exact .removed rfl stage
    · exact .unchanged binds leaks (by simp)
  | read =>
    obtain ⟨binds, leaks⟩ := not_probe ⟨led, .read⟩ (by simp)
    have left : Event.left step ⟨led, .read⟩ = led := by
      simp only [Event.left, step]
      split <;> rfl
    rw [left]
    exact .unchanged binds leaks (by simp)
  | write buf =>
    obtain ⟨binds, leaks⟩ := not_probe ⟨led, .write buf⟩ (by simp)
    simp only [Event.left, step]
    split
    · next stage => exact .unchanged binds leaks (fun _ _ => stage)
    · next stage => exact .stored buf rfl stage

/-- While there is an attribute, the line is high just if the number is not zero. -/
def Agrees (led : Led) : Prop :=
  led.stage ≠ .unbound → led.line = decide (led.ledState ≠ 0)

/-- The line is held exactly while the LED is bound. -/
def Owned (led : Led) : Prop := led.held = true ↔ led.stage = .bound

/-- The line is held for good by a probe that has failed. -/
def Lost (led : Led) : Prop := led.stage = .unbound ∧ led.held = true

/-- A call keeps the line and the number alike exactly if it is no probe that binds the LED with
a number other than zero. -/
theorem agrees_kept_iff (event : Event Led Call) (agrees : Agrees event.before) :
    Agrees (event.left step) ↔ (Binds event → event.before.ledState = 0) := by
  have effect := step_effect event
  generalize event.left step = left at effect ⊢
  cases effect with
  | bound binds =>
    constructor
    · intro same _
      have low := same (show Stage.bound ≠ .unbound by decide)
      simpa using low
    · intro zero _
      simp [zero binds]
  | leaked leaks =>
    obtain ⟨_, _, _, _, unbound, _⟩ := id leaks
    refine iff_of_true (fun bound => absurd unbound bound) ?_
    rintro ⟨call, _⟩
    obtain ⟨kobject, group, same, fails, _⟩ := leaks
    obtain ⟨_, rfl, rfl⟩ := Call.probe.inj (same.symm.trans call)
    simp at fails
  | released call stage =>
    exact iff_of_true (fun _ => agrees (by simp [stage]))
      (fun binds => by simp [Binds, call] at binds)
  | removed call stage =>
    exact iff_of_true (fun bound => absurd rfl bound) (fun binds => by simp [Binds, call] at binds)
  | stored buf call stage =>
    exact iff_of_true (fun _ => rfl) (fun binds => by simp [Binds, call] at binds)
  | unchanged binds leaks quiet => exact iff_of_true agrees (fun binding => absurd binding binds)

/-- The number that a call puts into `led_state`. -/
def put (event : Event Led Call) (_ : Unit) : Option (BitVec 32) :=
  match event.call with
  | .write buf => if event.before.stage = .unbound then none else scanInt (beforeZero buf)
  | _ => none

/-- Only a store that reaches the attribute changes the number. -/
theorem step_puts (event : Event Led Call) :
    (event.left step).ledState = (put event ()).getD event.before.ledState := by
  have effect := step_effect event
  generalize event.left step = left at effect ⊢
  cases effect with
  | bound binds => simp [put, binds.1]
  | leaked leaks =>
    obtain ⟨_, _, call, _⟩ := leaks
    simp [put, call]
  | released call | removed call => simp [put, call]
  | stored buf call stage => simp [put, call, if_neg stage, valueStore]
  | unchanged binds leaks quiet =>
    obtain ⟨led, call⟩ := event
    cases call with
    | write buf =>
      have none : put ⟨led, .write buf⟩ () = none := if_pos (quiet buf rfl)
      rw [none]
      rfl
    | probe | gpiodPut | kobjectPut | read => rfl

/-- In every run, what the attribute shows is the number that was scanned last, or zero. Line and
number agree in every state in which there is an attribute, if and only if no probe binds the
LED with a number other than zero. -/
theorem line_agrees_iff (calls : List Call) :
    (after step loaded calls).ledState =
        (lastPut put (trace step loaded calls) ()).getD 0 ∧
      ((∀ earlier, earlier <+: calls → Agrees (after step loaded earlier)) ↔
        ∀ event ∈ trace step loaded calls, Binds event → event.before.ledState = 0) := by
  constructor
  · exact view_after step (fun _ => True) (fun _ => True) (fun _ => True)
      (fun led _ => led.ledState) put (fun _ _ _ => trivial)
      (fun event _ _ _ _ => step_puts event) loaded calls trivial (fun _ _ => trivial) () trivial
  · exact throughout_iff step (fun _ => True) Agrees
      (fun event => Binds event → event.before.ledState = 0) (fun _ _ _ => trivial)
      (fun event _ agrees => agrees_kept_iff event agrees) loaded calls trivial
      (fun bound => absurd rfl bound)

/-- A call keeps the line held exactly while the LED is bound, if it is no probe that fails with
the line in its hands. -/
theorem owned_kept_iff (event : Event Led Call) (owned : Owned event.before) :
    Owned (event.left step) ↔ ¬ Leaks event := by
  have effect := step_effect event
  generalize event.left step = left at effect ⊢
  cases effect with
  | bound binds =>
    refine iff_of_true (iff_of_true rfl rfl) ?_
    rintro ⟨kobject, group, call, fails, _⟩
    obtain ⟨_, rfl, rfl⟩ := Call.probe.inj (call.symm.trans binds.1)
    simp at fails
  | leaked leaks =>
    obtain ⟨_, _, _, _, unbound, _⟩ := id leaks
    refine iff_of_false (fun owns => ?_) (not_not.mpr leaks)
    have bound := owns.mp rfl
    simp [unbound] at bound
  | released call stage =>
    exact iff_of_true (by simp [Owned]) (not_probe event (by simp [call])).2
  | removed call stage =>
    refine iff_of_true ?_ (not_probe event (by simp [call])).2
    simp only [Owned, reduceCtorEq, iff_false]
    intro held
    have bound := owned.mp held
    simp [stage] at bound
  | stored buf call stage =>
    exact iff_of_true owned (not_probe event (by simp [call])).2
  | unchanged binds leaks quiet => exact iff_of_true owned leaks

/-- A line that is lost stays so: every probe is told that it is busy, and nothing else is
answered. -/
theorem lost_kept (event : Event Led Call) (lost : Lost event.before) :
    event.left step = event.before ∧
      ∀ reply, event.reply step = some reply → reply = ⟨-ebusy, []⟩ := by
  obtain ⟨led, call⟩ := event
  obtain ⟨unbound, held⟩ : led.stage = .unbound ∧ led.held = true := lost
  cases call with
  | probe get kobject group =>
    have told : step led (.probe get kobject group) = (led, some ⟨-ebusy, []⟩) := by
      simp [step, unbound, gpioLedProbe, gpiodGet, held]
    simp only [Event.left, Event.reply, told]
    exact ⟨trivial, fun reply same => (Option.some.inj same).symm⟩
  | gpiodPut | kobjectPut | read | write =>
    simp [Event.left, Event.reply, step, unbound]

/-- While there is an attribute, the line is held exactly until it is given back. -/
def Served (led : Led) : Prop := led.stage ≠ .unbound → Owned led

/-- Every step keeps that an attribute that is there has its line until the line is given
back. -/
theorem served_kept (event : Event Led Call) (served : Served event.before) :
    Served (event.left step) := by
  have effect := step_effect event
  generalize event.left step = left at effect ⊢
  cases effect with
  | bound binds => exact fun _ => iff_of_true rfl rfl
  | leaked leaks =>
    obtain ⟨_, _, _, _, unbound, _⟩ := leaks
    exact fun bound => absurd unbound bound
  | released call stage => exact fun _ => iff_of_false Bool.false_ne_true (by simp)
  | removed call stage => exact fun bound => absurd rfl bound
  | stored buf call stage => exact served
  | unchanged binds leaks quiet => exact served

/-- The call sets the line, from the number that it has stored or found. -/
def Sets (event : Event Led Call) : Prop :=
  (∃ buf, event.call = .write buf) ∧ event.before.stage ≠ .unbound

/-- In every run, the line is held exactly while the LED is bound, if and only if no probe fails
with the line in its hands; and whatever sets the line finds it held, if and only if no store
comes between the two steps of a removal. After a probe that fails with the line in its hands,
nothing changes any more, and every probe is told that the line is busy. -/
theorem line_owned_iff (calls : List Call) :
    ((∀ earlier, earlier <+: calls → Owned (after step loaded earlier)) ↔
        ∀ event ∈ trace step loaded calls, ¬ Leaks event) ∧
      ((∀ event ∈ trace step loaded calls, Sets event → event.before.held = true) ↔
        ∀ event ∈ trace step loaded calls, Sets event → event.before.stage ≠ .lineReleased) ∧
      (∀ event ∈ trace step loaded calls, Leaks event → ∀ later,
        ∀ next ∈ trace step (event.left step) later,
          next.before = event.left step ∧
            ∀ reply, next.reply step = some reply → reply = ⟨-ebusy, []⟩) := by
  refine ⟨?_, ?_, ?_⟩
  · exact throughout_iff step (fun _ => True) Owned (fun event => ¬ Leaks event)
      (fun _ _ _ => trivial) (fun event _ owned => owned_kept_iff event owned) loaded calls trivial
      (by simp [Owned, loaded])
  · have served (event : Event Led Call) (member : event ∈ trace step loaded calls) :
        Served event.before :=
      invariant_met step Served (fun led call served => served_kept ⟨led, call⟩ served) loaded
        calls (fun bound => absurd rfl bound) event member
    refine forall₂_congr fun event member => imp_congr_right fun sets => ?_
    have owned : event.before.held = true ↔ event.before.stage = .bound :=
      served event member sets.2
    have present := sets.2
    rw [owned]
    cases stage : event.before.stage with
    | unbound => exact absurd stage present
    | bound => exact iff_of_true rfl (by decide)
    | lineReleased => exact iff_of_false (by decide) (fun other => other rfl)
  · intro event member leaks later next within
    have lost : Lost (event.left step) := by
      rw [leaks_left event leaks]
      obtain ⟨_, _, _, _, unbound, _⟩ := leaks
      exact ⟨unbound, rfl⟩
    have stays : next.before = event.left step :=
      invariant_met step (fun led => led = event.left step)
        (fun led call same => by rw [same]; exact (lost_kept ⟨_, call⟩ lost).1)
        (event.left step) later rfl next within
    refine ⟨stays, (lost_kept next (by rw [stays]; exact lost)).2⟩

end LddExamples.GpioLed
