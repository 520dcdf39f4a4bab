import LddExamples.LedColor
import LddExamples.Runs
import LddExamples.SignedDecimals

/-!
# The attributes of the LED

`006_led_sysfs_attr/led_rgb_sysfs_attr.c`: the colour as a string, the brightness and the power
as numbers. Shows and stores of the three come in any order. The kernel serialises those of one
open file only; a show or a store is one step here, since each reads or replaces one value. A
store of ten bytes to the colour reaches beyond its array and is kept out of the runs; the
names of the attributes and the log are left out. The name of the last one is no name, so that
the file does not compile as it stands.

The bytes that are stored lie on a page, with a terminator behind them.
-/

namespace LddExamples.LedAttributes

open Runs ByteWindows KernelInterface StringBuffers LedColor SensorControl SignedDecimals

/-- The colour, in which a string ends, and the two numbers. -/
structure Light where
  color : Memory
  brightness : BitVec 32
  power : BitVec 32
  terminated : ∃ index, color index = 0

/-- The three attributes. -/
inductive Attribute where
  | color
  | brightness
  | power
deriving DecidableEq

/-- A read of an attribute, or a write of some bytes to it. -/
inductive Call where
  | read (file : Attribute)
  | write (file : Attribute) (buf : List UInt8)

/-- The bytes behind a stored colour include a zero byte. -/
theorem color_terminated (color : Memory) (buf : List UInt8)
    (terminated : ∃ index, color index = 0) : ∃ index, (colorStore color buf).1 index = 0 := by
  rw [colorStore]
  split
  · exact terminated
  · exact ⟨buf.length, store_inside _ buf.length [0] 0 Nat.zero_lt_one⟩

/-- `color_store` on the colour of the LED. -/
def Light.colorStore (light : Light) (buf : List UInt8) : Light × Int :=
  ({ light with
      color := (LedColor.colorStore light.color buf).1
      terminated := color_terminated light.color buf light.terminated },
    (LedColor.colorStore light.color buf).2)

/-- The text of a number. -/
def intShow (number : BitVec 32) : Reply :=
  let text := printInt number.toInt ++ [newline]
  ⟨text.length, text⟩

/-- A number is replaced if the string in the buffer denotes one. -/
def intStore (number : BitVec 32) (buf : List UInt8) : BitVec 32 × Int :=
  match kstrtoint (beforeZero buf) with
  | .error error => (number, error)
  | .ok other => (other, buf.length)

/-- `brightness_show` -/
def brightnessShow (light : Light) : Reply := intShow light.brightness

/-- `power_show` -/
def powerShow (light : Light) : Reply := intShow light.power

/-- `brightness_store` takes any int; no range is checked. -/
def brightnessStore (light : Light) (buf : List UInt8) : Light × Int :=
  ({ light with brightness := (intStore light.brightness buf).1 },
    (intStore light.brightness buf).2)

/-- `power_store` likewise: any int other than zero is as good as one. -/
def powerStore (light : Light) (buf : List UInt8) : Light × Int :=
  ({ light with power := (intStore light.power buf).1 }, (intStore light.power buf).2)

/-- What a read of an attribute returns. -/
def Light.shows (light : Light) : Attribute → Reply
  | .color => colorShow light.color light.terminated
  | .brightness => brightnessShow light
  | .power => powerShow light

/-- What a write to an attribute leaves and returns. -/
def Light.stores (light : Light) (buf : List UInt8) : Attribute → Light × Int
  | .color => light.colorStore buf
  | .brightness => brightnessStore light buf
  | .power => powerStore light buf

/-- One call on an attribute. -/
def step (light : Light) : Call → Light × Reply
  | .read file => (light, light.shows file)
  | .write file buf => ((light.stores buf file).1, ⟨(light.stores buf file).2, []⟩)

/-- `red`, at a brightness of 50, and on. -/
def loaded : Light :=
  ⟨store (fun _ => 0) 0 (textBytes "red"), 50, 1, 3, rfl⟩

/-- What an attribute shows from then on, if it takes the bytes. -/
def taken (buf : List UInt8) : Attribute → Option (List UInt8)
  | .color => if buf.length < colorSize then some (beforeZero buf ++ [newline]) else none
  | .brightness | .power =>
      match kstrtoint (beforeZero buf) with
      | .error _ => none
      | .ok number => some (printInt number.toInt ++ [newline])

/-- What a call makes an attribute show. -/
def put (event : Event Light Call) (file : Attribute) : Option (List UInt8) :=
  match event.call with
  | .read _ => none
  | .write other buf => if other = file then taken buf file else none

/-- The call stays in the array of the colour. -/
def InArray (call : Call) : Prop :=
  ∀ buf, call = .write .color buf → buf.length ≠ colorSize

/-- A number that is stored shows what it takes, and stays otherwise. -/
theorem int_store_shows (number : BitVec 32) (buf : List UInt8) :
    (intShow (intStore number buf).1).data =
        ((match kstrtoint (beforeZero buf) with
          | .error _ => none
          | .ok other => some (printInt other.toInt ++ [newline])).getD (intShow number).data) := by
  simp only [intStore]
  cases kstrtoint (beforeZero buf) with
  | error error => rfl
  | ok other => rfl

/-- What `strncpy` stores has the string of its source. -/
theorem strncpy_string (src : List UInt8) :
    beforeZero (strncpy src src.length) = beforeZero src := by
  have whole : beforeZero (beforeZero src) = beforeZero src :=
    (before_zero_eq_self_iff _).mpr (before_zero_nonzero src)
  simp only [strncpy, List.take_length]
  cases src.length - (beforeZero src).length with
  | zero => rw [List.replicate_zero, List.append_nil, whole]
  | succ more => rw [List.replicate_succ, before_zero_terminated, whole]

/-- A colour that is stored within the array shows its string, and stays if it is too long. -/
theorem color_store_shows (light : Light) (buf : List UInt8) (within : buf.length ≠ colorSize) :
    ((light.colorStore buf).1.shows .color).data =
      (taken buf .color).getD (light.shows .color).data := by
  by_cases long : colorSize < buf.length
  · have stays : LedColor.colorStore light.color buf = (light.color, -einval) := if_pos long
    have refused : ¬ buf.length < colorSize := by omega
    simp only [Light.shows, Light.colorStore, taken, if_neg refused, Option.getD_none, stays]
  · have fits : buf.length < colorSize := by omega
    have stored : LedColor.colorStore light.color buf =
        (store (store light.color 0 (strncpy buf buf.length)) buf.length [0],
          (buf.length : Int)) := if_neg long
    have ends : ∃ index < colorSize, (LedColor.colorStore light.color buf).1 index = 0 := by
      rw [stored]
      exact ⟨buf.length, fits, store_inside _ buf.length [0] 0 Nat.zero_lt_one⟩
    have string := string_stored colorSize light.color (strncpy buf buf.length)
      (by rw [strncpy_length]; exact fits)
    rw [strncpy_length, strncpy_string] at string
    have text := string_at_eq colorSize _
      (color_terminated light.color buf light.terminated) ends
    simp only [Light.shows, Light.colorStore, colorShow, taken, if_pos fits, Option.getD_some, text]
    rw [stored, string]
    rfl

/-- Every write within the array makes its attribute show what it takes, and no other call
changes what an attribute shows. -/
theorem step_shows (event : Event Light Call) (file : Attribute) (within : InArray event.call) :
    ((event.left step).shows file).data =
      (put event file).getD (event.before.shows file).data := by
  obtain ⟨light, call⟩ := event
  cases call with
  | read other => rfl
  | write other buf =>
    by_cases same : other = file
    · subst same
      simp only [put, if_true]
      cases other with
      | color => exact color_store_shows light buf (within buf rfl)
      | brightness => exact int_store_shows light.brightness buf
      | power => exact int_store_shows light.power buf
    · simp only [put, if_neg same, Option.getD_none]
      cases other with
      | color | brightness | power =>
        cases file with
        | color | brightness | power => first | rfl | exact absurd rfl same

/-- A number that is printed is stored as it is. -/
theorem int_copied (number : BitVec 32) :
    intStore number (intShow number).data = (number, ((intShow number).data.length : Int)) := by
  have string : beforeZero (printInt number.toInt ++ [newline]) =
      printInt number.toInt ++ [newline] := by
    rw [before_zero_eq_self_iff, List.mem_append]
    rintro (member | member)
    · exact (print_visible number.toInt).1 member
    · exact absurd member (by decide)
  simp only [intStore, intShow, string, kstrtoint_print number [newline] (Or.inr rfl)]

/-- Storing what a numeric attribute shows changes nothing. -/
theorem number_copied (light : Light) (file : Attribute) (numeric : file ≠ .color) :
    light.stores (light.shows file).data file =
      (light, ((light.shows file).data.length : Int)) := by
  cases file with
  | color => exact absurd rfl numeric
  | brightness =>
    simp only [Light.stores, Light.shows, brightnessStore, brightnessShow, int_copied]
  | power =>
    simp only [Light.stores, Light.shows, powerStore, powerShow, int_copied]

/-- Storing what the colour shows adds another newline, if it fits. -/
theorem color_copied (light : Light) (short : (light.shows .color).data.length < colorSize) :
    ((light.stores (light.shows .color).data .color).1.shows .color).data =
      (light.shows .color).data ++ [newline] := by
  have shown := color_store_shows light (light.shows .color).data (by omega)
  have string : beforeZero (light.shows .color).data = (light.shows .color).data := by
    simp only [Light.shows, colorShow]
    rw [before_zero_eq_self_iff, List.mem_append]
    rintro (member | member)
    · exact string_at_nonzero _ _ member
    · exact absurd member (by decide)
  rw [taken, if_pos short, string, Option.getD_some] at shown
  exact shown

/-- A number is replaced by exactly the texts that denote an int. -/
theorem int_store_taken (number : BitVec 32) (buf : List UInt8) :
    (∀ other : BitVec 32, Denotes (beforeZero buf) other.toInt →
        kstrtoint (beforeZero buf) = .ok other ∧ (intStore number buf).2 = buf.length) ∧
      ((∀ other : BitVec 32, ¬ Denotes (beforeZero buf) other.toInt) →
        (intStore number buf).1 = number ∧ (intStore number buf).2 < 0) := by
  refine ⟨fun other denotes => ?_, fun none => ?_⟩
  · have read := (kstrtoint_ok_iff _ other).mpr denotes
    exact ⟨read, by simp only [intStore, read]⟩
  · cases read : kstrtoint (beforeZero buf) with
    | ok other => exact absurd ((kstrtoint_ok_iff _ other).mp read) (none other)
    | error error =>
      simp only [intStore, read, true_and]
      rcases kstrtoint_error _ error read with rfl | rfl <;> decide

/-- A write to a numeric attribute takes exactly the texts that denote an int, and another text
fails and changes nothing. -/
theorem number_taken (light : Light) (file : Attribute) (numeric : file ≠ .color)
    (buf : List UInt8) :
    (∀ number : BitVec 32, Denotes (beforeZero buf) number.toInt →
        taken buf file = some (printInt number.toInt ++ [newline]) ∧
          (light.stores buf file).2 = buf.length) ∧
      ((∀ number : BitVec 32, ¬ Denotes (beforeZero buf) number.toInt) →
        light.stores buf file = (light, (light.stores buf file).2) ∧
          (light.stores buf file).2 < 0) := by
  cases file with
  | color => exact absurd rfl numeric
  | brightness =>
    refine ⟨fun number denotes => ?_, fun none => ?_⟩
    · obtain ⟨read, reply⟩ := (int_store_taken light.brightness buf).1 number denotes
      exact ⟨by simp only [taken, read], reply⟩
    · obtain ⟨stays, refused⟩ := (int_store_taken light.brightness buf).2 none
      exact ⟨by simp only [Light.stores, brightnessStore, stays], refused⟩
  | power =>
    refine ⟨fun number denotes => ?_, fun none => ?_⟩
    · obtain ⟨read, reply⟩ := (int_store_taken light.power buf).1 number denotes
      exact ⟨by simp only [taken, read], reply⟩
    · obtain ⟨stays, refused⟩ := (int_store_taken light.power buf).2 none
      exact ⟨by simp only [Light.stores, powerStore, stays], refused⟩

/-- After every run within the array of the colour, each attribute shows what it took last, or
what it was loaded with; a numeric attribute takes exactly the texts that denote an int; and
what is shown can be stored back, which changes no number, and adds a newline to a colour. -/
theorem attributes_show_last (calls : List Call) (within : ∀ call ∈ calls, InArray call) :
    let light := after step loaded calls
    (∀ file, (light.shows file).data =
        (lastPut put (trace step loaded calls) file).getD (loaded.shows file).data) ∧
      (∀ file buf, file ≠ .color →
        (∀ number : BitVec 32, Denotes (beforeZero buf) number.toInt →
            taken buf file = some (printInt number.toInt ++ [newline]) ∧
              (light.stores buf file).2 = buf.length) ∧
          ((∀ number : BitVec 32, ¬ Denotes (beforeZero buf) number.toInt) →
            light.stores buf file = (light, (light.stores buf file).2) ∧
              (light.stores buf file).2 < 0)) ∧
      (∀ file, file ≠ .color →
        light.stores (light.shows file).data file =
          (light, ((light.shows file).data.length : Int))) ∧
      ((light.shows .color).data.length < colorSize →
        ((light.stores (light.shows .color).data .color).1.shows .color).data =
          (light.shows .color).data ++ [newline]) := by
  intro light
  refine ⟨fun file => ?_, fun file buf numeric => number_taken light file numeric buf,
    fun file numeric => number_copied light file numeric, color_copied light⟩
  refine view_after step (fun _ => True) (fun event => InArray event.call) (fun _ => True)
    (fun light file => (light.shows file).data) put (fun _ _ _ => trivial)
    (fun event file _ inside _ => step_shows event file inside) loaded calls trivial ?_ file trivial
  intro event member
  obtain ⟨earlier, isPrefix, _⟩ := (mem_trace_iff step loaded calls event).mp member
  exact within event.call (isPrefix.subset (by simp))

/-- A run that stores a number, a text that is none, and a colour. -/
theorem attributes_show_last_green :
    let light := after step loaded [.write .brightness (textBytes "-7\n"),
      .write .brightness (textBytes "7 "), .write .color (textBytes "green")]
    (light.shows .brightness).data =
      (lastPut put (trace step loaded [.write .brightness (textBytes "-7\n"),
        .write .brightness (textBytes "7 "), .write .color (textBytes "green")])
        .brightness).getD (loaded.shows .brightness).data := by
  refine (attributes_show_last _ ?_).1 .brightness
  intro call member buf same
  subst same
  simp only [List.mem_cons, reduceCtorEq, Call.write.injEq, true_and, List.not_mem_nil, or_false,
    false_or, false_and] at member
  rw [member]
  decide

end LddExamples.LedAttributes
