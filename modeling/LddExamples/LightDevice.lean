import LddExamples.KernelInterface

/-!
# The light device

`005_atomic_light/light_kernel.c`: three atomic ints, written and read together as a
packed struct of three bytes. Each field is stored and loaded by one atomic access of
its own, in the order of the struct. A read copies the whole struct whatever length
it asks for. A struct from the user is valid if its first byte, a `_Bool`, is 0 or 1. The
commands set and get the state and the brightness as ints.
-/

namespace LddExamples.LightDevice

open KernelInterface

/-- A valid `lightStatus`. -/
structure LightStatus where
  state : Bool
  brightness : UInt8
  temperature : UInt8
deriving DecidableEq

/-- The three atomic variables. -/
inductive Field where
  | state
  | brightness
  | temperature
deriving DecidableEq

/-- The driver's variables. Each is an atomic of its own, and nothing holds them together.
-/
structure Device where
  gState : Int
  gBrightness : Int
  gTemperature : Int

/-- `atomic_read` of a variable. -/
def Device.atomicRead (device : Device) : Field → Int
  | .state => device.gState
  | .brightness => device.gBrightness
  | .temperature => device.gTemperature

/-- `atomic_set` of a variable. Nothing checks the value. -/
def Device.atomicSet (device : Device) (field : Field) (value : Int) : Device :=
  match field with
  | .state => { device with gState := value }
  | .brightness => { device with gBrightness := value }
  | .temperature => { device with gTemperature := value }

/-- The int that a field of a struct is stored as. -/
def LightStatus.value (status : LightStatus) : Field → Int
  | .state => if status.state then 1 else 0
  | .brightness => status.brightness.toNat
  | .temperature => status.temperature.toNat

/-- A struct with an int assigned to one of its fields. -/
def LightStatus.assign (status : LightStatus) (field : Field) (value : Int) : LightStatus :=
  match field with
  | .state => { status with state := decide (value ≠ 0) }
  | .brightness => { status with brightness := UInt8.ofNat (wrapUnsigned 8 value) }
  | .temperature => { status with temperature := UInt8.ofNat (wrapUnsigned 8 value) }

/-- The bytes of a struct. -/
def LightStatus.bytes (status : LightStatus) : List UInt8 :=
  [if status.state then 1 else 0, status.brightness, status.temperature]

/-- One load of `light_read`. -/
def loadField (device : Device) (lRead : LightStatus) (field : Field) : LightStatus :=
  lRead.assign field (device.atomicRead field)

/-- One store of `light_write`. -/
def storeField (device : Device) (lWrite : LightStatus) (field : Field) : Device :=
  device.atomicSet field (lWrite.value field)

/-- A whole `light_read`; `lRead` is what the local struct holds before. -/
def lightRead (device : Device) (lRead : LightStatus) (room : Nat) : Reply :=
  let lRead := loadField device lRead .state
  let lRead := loadField device lRead .brightness
  let lRead := loadField device lRead .temperature
  let (data, missing) := copyToUser lRead.bytes room
  if missing ≠ 0 then ⟨-efault, data⟩ else ⟨3, data⟩

/-- A whole `light_write` of the struct that was copied from the user, if it was. -/
def lightWrite (device : Device) (copied : Option LightStatus) : Device × Int :=
  match copied with
  | none => (device, -efault)
  | some lWrite =>
      let device := storeField device lWrite .state
      let device := storeField device lWrite .brightness
      let device := storeField device lWrite .temperature
      (device, 3)

/-- A command with what its argument address holds, or the room there. Every number without
a command is `unknown`. -/
inductive Ioctl where
  | ledOn
  | ledOff
  | ledSetBrightness (arg : UserSource)
  | ledGetState (room : Nat)
  | ledGetBrightness (room : Nat)
  | unknown

/-- Copy an int to the user. -/
def putVal (val : Int) (room : Nat) : Reply :=
  let (data, missing) := copyToUser (intBytes (BitVec.ofInt 32 val)) room
  if missing ≠ 0 then ⟨-efault, data⟩ else ⟨0, data⟩

/-- The commands. The brightness is set to any int here, where a write can only bring a byte;
a value that cannot be copied in or out is an error, and so is any other number. -/
def lightIoctl (device : Device) : Ioctl → Device × Reply
  | .ledOn => (device.atomicSet .state 1, ⟨0, []⟩)
  | .ledOff => (device.atomicSet .state 0, ⟨0, []⟩)
  | .ledSetBrightness arg =>
      match copyIntFromUser arg with
      | none => (device, ⟨-efault, []⟩)
      | some val => (device.atomicSet .brightness val, ⟨0, []⟩)
  | .ledGetState room => (device, putVal (device.atomicRead .state) room)
  | .ledGetBrightness room => (device, putVal (device.atomicRead .brightness) room)
  | .unknown => (device, ⟨-einval, []⟩)

/-- The driver as it is loaded. -/
def loaded : Device := ⟨0, 0, 25⟩

/-- Loading what a valid struct has stored gives its field. -/
theorem assign_value_same (lRead status : LightStatus) (field : Field) :
    (lRead.assign field (status.value field)).value field = status.value field := by
  have byte (value : UInt8) : wrapUnsigned 8 (value.toNat : Int) = value.toNat := by
    have bound := value.toNat_lt
    simp only [wrapUnsigned]
    omega
  cases field with
  | state =>
    obtain ⟨state, brightness, temperature⟩ := status
    cases state <;> rfl
  | brightness =>
    simp only [LightStatus.assign, LightStatus.value, byte, UInt8.ofNat_toNat]
  | temperature =>
    simp only [LightStatus.assign, LightStatus.value, byte, UInt8.ofNat_toNat]

/-- Assigning to one field leaves the others. -/
theorem assign_value_other (lRead : LightStatus) (field other : Field) (value : Int)
    (different : other ≠ field) :
    (lRead.assign field value).value other = lRead.value other := by
  cases field <;> cases other <;> first | exact absurd rfl different | rfl

/-- A struct is its three fields. -/
theorem status_eq_of_values (first second : LightStatus)
    (same : ∀ field, first.value field = second.value field) : first = second := by
  obtain ⟨firstState, firstBrightness, firstTemperature⟩ := first
  obtain ⟨secondState, secondBrightness, secondTemperature⟩ := second
  have state := same .state
  have brightness := same .brightness
  have temperature := same .temperature
  simp only [LightStatus.value, Int.natCast_inj, UInt8.toNat_inj] at state brightness temperature
  subst brightness temperature
  cases firstState <;> cases secondState <;> simp_all

/-- A store changes its own field. -/
theorem atomic_set_same (device : Device) (field : Field) (value : Int) :
    (device.atomicSet field value).atomicRead field = value := by
  cases field <;> rfl

/-- A store leaves the other fields. -/
theorem atomic_set_other (device : Device) (field other : Field) (value : Int)
    (different : other ≠ field) :
    (device.atomicSet field value).atomicRead other = device.atomicRead other := by
  cases field <;> cases other <;> first | exact absurd rfl different | rfl

end LddExamples.LightDevice
