import LddExamples.LightDevice
import LddExamples.Runs

/-!
# The two interfaces of the light device

The state and the brightness can be set and looked at as fields of the struct, and as ints
through commands. Each is one variable, and both interfaces look at what either has set
last. A command can set the brightness to any int; the struct has one byte for it, so the
two show the same number as long as no command sets one that a byte does not hold.
-/

namespace LddExamples.LightInterfaces

open Runs KernelInterface LightDevice

inductive Call where
  | write (copied : Option LightStatus)
  | ioctl (command : Ioctl)

/-- One complete call that can change the device. -/
def step (device : Device) : Call → Device × Reply
  | .write copied => ((lightWrite device copied).1, ⟨(lightWrite device copied).2, []⟩)
  | .ioctl command => lightIoctl device command

/-- What a call sets a field to, if it does. -/
def setValue (event : Event Device Call) (field : Field) : Option Int :=
  match event.call with
  | .write copied => copied.map fun lWrite => lWrite.value field
  | .ioctl .ledOn => if field = .state then some 1 else none
  | .ioctl .ledOff => if field = .state then some 0 else none
  | .ioctl (.ledSetBrightness arg) => if field = .brightness then copyIntFromUser arg else none
  | .ioctl _ => none

/-- The value last set, or the one of the loaded driver. -/
def lastSet (field : Field) (history : List (Event Device Call)) : Int :=
  (lastPut setValue history field).getD (loaded.atomicRead field)

/-- The number that a whole read shows at a place of the struct. -/
def shown (device : Device) (lRead : LightStatus) (place : Nat) : Int :=
  ((lightRead device lRead 3).data.getD place 0).toNat

/-- The number that a command returns. -/
def returned (device : Device) (command : Ioctl) : Int :=
  decodeInt (lightIoctl device command).2.data

/-- Both interfaces show what was set last, in the state and in the brightness. -/
def Agree (history : List (Event Device Call)) (device : Device) : Prop :=
  ∀ lRead,
    (shown device lRead 0 = returned device (.ledGetState 4) ∧
        returned device (.ledGetState 4) = lastSet .state history) ∧
      shown device lRead 1 = returned device (.ledGetBrightness 4) ∧
        returned device (.ledGetBrightness 4) = lastSet .brightness history

/-- A command that sets the brightness sets it to a number that a byte holds. -/
def InByte (event : Event Device Call) : Prop :=
  ∀ arg val, event.call = .ioctl (.ledSetBrightness arg) → copyIntFromUser arg = some val →
    0 ≤ val ∧ val < 256

/-- The state is a truth value, and the brightness an int. -/
def Typed (device : Device) : Prop :=
  (device.gState = 0 ∨ device.gState = 1) ∧
    -2 ^ 31 ≤ device.gBrightness ∧ device.gBrightness < 2 ^ 31

/-- A call sets the fields that it says, and leaves the others. -/
theorem step_sets (event : Event Device Call) (field : Field) :
    (event.left step).atomicRead field =
      (setValue event field).getD (event.before.atomicRead field) := by
  obtain ⟨device, call⟩ := event
  cases call with
  | write copied =>
    cases copied with
    | none => rfl
    | some lWrite => cases field <;> rfl
  | ioctl command =>
    cases command with
    | ledOn | ledOff | ledGetState | ledGetBrightness | unknown => cases field <;> rfl
    | ledSetBrightness arg =>
      simp only [Event.left, step, lightIoctl, setValue]
      cases copied : copyIntFromUser arg with
      | none => cases field <;> rfl
      | some val => cases field <;> rfl

/-- A copied int is one. -/
theorem copied_int_range (arg : UserSource) (val : Int) (copied : copyIntFromUser arg = some val) :
    -2 ^ 31 ≤ val ∧ val < 2 ^ 31 := by
  simp only [copyIntFromUser] at copied
  split at copied
  · contradiction
  · obtain rfl := Option.some.inj copied
    simp only [decodeInt, wrapSigned, Int.bmod_def]
    omega

/-- Every call keeps the variables within their types. -/
theorem typed_kept (device : Device) (call : Call) (typed : Typed device) :
    Typed (step device call).1 := by
  obtain ⟨state, lower, upper⟩ := typed
  cases call with
  | write copied =>
    cases copied with
    | none => exact ⟨state, lower, upper⟩
    | some lWrite =>
      have byte := lWrite.brightness.toNat_lt
      refine ⟨?_, show -2 ^ 31 ≤ (lWrite.brightness.toNat : Int) by omega,
        show (lWrite.brightness.toNat : Int) < 2 ^ 31 by omega⟩
      simp only [step, lightWrite, storeField, Device.atomicSet, LightStatus.value]
      split <;> simp
  | ioctl command =>
    cases command with
    | ledOn => exact ⟨Or.inr rfl, lower, upper⟩
    | ledOff => exact ⟨Or.inl rfl, lower, upper⟩
    | ledGetState | ledGetBrightness | unknown => exact ⟨state, lower, upper⟩
    | ledSetBrightness arg =>
      simp only [step, lightIoctl]
      cases copied : copyIntFromUser arg with
      | none => exact ⟨state, lower, upper⟩
      | some val => exact ⟨state, copied_int_range arg val copied⟩

/-- A whole read shows the state as a truth value, and the lowest byte of the brightness. -/
theorem light_read_data (device : Device) (lRead : LightStatus) :
    (lightRead device lRead 3).data =
      [if decide (device.gState ≠ 0) then 1 else 0,
        UInt8.ofNat (wrapUnsigned 8 device.gBrightness),
        UInt8.ofNat (wrapUnsigned 8 device.gTemperature)] := rfl

/-- The state is shown as it is. -/
theorem shown_state (device : Device) (lRead : LightStatus) (typed : Typed device) :
    shown device lRead 0 = device.gState := by
  rw [shown, light_read_data]
  rcases typed.1 with off | on
  · simp [off]
  · simp [on]

/-- Of the brightness, the lowest byte is shown. -/
theorem shown_brightness (device : Device) (lRead : LightStatus) :
    shown device lRead 1 = device.gBrightness % 256 := by
  rw [shown, light_read_data]
  simp only [List.getD_cons_succ, List.getD_cons_zero, UInt8.toNat_ofNat', wrapUnsigned]
  omega

/-- An int is returned as it is. -/
theorem put_val_data (val : Int) (lower : -2 ^ 31 ≤ val) (upper : val < 2 ^ 31) :
    decodeInt (putVal val 4).data = val := by
  have bytes : (putVal val 4).data = intBytes (BitVec.ofInt 32 val) := by
    simp only [putVal, copy_int_complete _ 4 le_rfl, ne_eq, not_true_eq_false, if_false]
  rw [bytes, decodeInt_intBytes, BitVec.toInt_ofInt, Int.bmod_def]
  omega

/-- The commands return the variables. -/
theorem returned_val (device : Device) (typed : Typed device) :
    returned device (.ledGetState 4) = device.gState ∧
      returned device (.ledGetBrightness 4) = device.gBrightness := by
  obtain ⟨state, lower, upper⟩ := typed
  exact ⟨put_val_data device.gState (by omega) (by omega),
    put_val_data device.gBrightness lower upper⟩

/-- The variables hold what was set last. -/
def Recorded (history : List (Event Device Call)) (device : Device) : Prop :=
  Typed device ∧ ∀ field, device.atomicRead field = lastSet field history

/-- Every call keeps the record. -/
theorem recorded_kept (history : List (Event Device Call)) (event : Event Device Call)
    (recorded : Recorded history event.before) :
    Recorded (history ++ [event]) (event.left step) := by
  refine ⟨typed_kept event.before event.call recorded.1, fun field => ?_⟩
  rw [step_sets, lastSet, lastPut_append_singleton, recorded.2, lastSet]
  cases setValue event field <;> rfl

/-- The two interfaces agree exactly while a byte holds the brightness. -/
theorem agree_iff (history : List (Event Device Call)) (device : Device)
    (recorded : Recorded history device) :
    Agree history device ↔ 0 ≤ device.gBrightness ∧ device.gBrightness < 256 := by
  obtain ⟨typed, last⟩ := recorded
  obtain ⟨state, brightness⟩ := returned_val device typed
  have lastState : device.gState = lastSet .state history := last .state
  have lastBrightness : device.gBrightness = lastSet .brightness history := last .brightness
  simp only [Agree, state, brightness, shown_state device _ typed, shown_brightness,
    ← lastState, ← lastBrightness, and_true, true_and]
  constructor
  · intro agree
    have same := agree ⟨false, 0, 0⟩
    omega
  · exact fun byte _ => by omega

/-- A call leaves a brightness that a byte holds, if it finds one, exactly unless it sets
one that a byte does not hold. -/
theorem byte_kept_iff (event : Event Device Call)
    (byte : 0 ≤ event.before.gBrightness ∧ event.before.gBrightness < 256) :
    (0 ≤ (event.left step).gBrightness ∧ (event.left step).gBrightness < 256) ↔ InByte event := by
  obtain ⟨device, call⟩ := event
  cases call with
  | write copied =>
    refine iff_of_true ?_ (fun _ _ impossible => by contradiction)
    cases copied with
    | none => exact byte
    | some lWrite =>
      have small := lWrite.brightness.toNat_lt
      exact ⟨show (0 : Int) ≤ lWrite.brightness.toNat by omega,
        show (lWrite.brightness.toNat : Int) < 256 by omega⟩
  | ioctl command =>
    cases command with
    | ledOn | ledOff | ledGetState | ledGetBrightness | unknown =>
      exact iff_of_true byte (fun _ _ impossible => absurd impossible (by simp))
    | ledSetBrightness arg =>
      simp only [Event.left, step, lightIoctl, InByte]
      cases copied : copyIntFromUser arg with
      | none =>
        refine iff_of_true byte ?_
        rintro other val same found
        obtain rfl : arg = other := by simpa using same
        simp [copied] at found
      | some val =>
        constructor
        · rintro held other value same found
          obtain rfl : arg = other := by simpa using same
          rw [copied] at found
          rw [← Option.some.inj found]
          exact held
        · exact fun held => held arg val rfl copied

/-- In every run of writes and commands, both interfaces show what was set last through
either, in every state, if and only if no command sets the brightness to a number that a
byte does not hold. -/
theorem interfaces_agree_iff (calls : List Call) :
    AtEachState step loaded calls Agree ↔ AtEachCall step loaded calls (fun _ => InByte) := by
  have initial : Recorded [] loaded := ⟨⟨Or.inl rfl, by decide, by decide⟩, fun _ => rfl⟩
  refine history_throughout_iff step Recorded Agree (fun _ _ => True) (fun _ => InByte)
    (fun history event recorded _ => recorded_kept history event recorded) ?_ loaded calls initial
    ((agree_iff [] loaded initial).mpr (by decide)) (fun _ _ _ => trivial)
  intro history event recorded _ agree
  have byte := (agree_iff history event.before recorded).mp agree
  rw [agree_iff _ _ (recorded_kept history event recorded)]
  exact byte_kept_iff event byte

/-- The brightness is set to 300. -/
def setTooBright : List Call := [.ioctl (.ledSetBrightness (.ofBytes [44, 1, 0, 0]))]

/-- The command returns 300 and a read shows 44. -/
theorem too_bright_disagrees :
    returned (after step loaded setTooBright) (.ledGetBrightness 4) = 300 ∧
      shown (after step loaded setTooBright) ⟨false, 0, 0⟩ 1 = 44 ∧
      ¬ AtEachState step loaded setTooBright Agree := by
  have command : returned (after step loaded setTooBright) (.ledGetBrightness 4) = 300 := by
    decide +kernel
  have read : shown (after step loaded setTooBright) ⟨false, 0, 0⟩ 1 = 44 := by decide +kernel
  refine ⟨command, read, fun agree => ?_⟩
  have last := (agree setTooBright List.prefix_rfl ⟨false, 0, 0⟩).2.1
  rw [command, read] at last
  exact absurd last (by decide)

end LddExamples.LightInterfaces
