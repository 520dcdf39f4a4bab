import LddExamples.KernelInterface
import LddExamples.StoreLogs
import LddExamples.StringBuffers

/-!
# The colour of the LED

`006_led_sysfs_attr/led_rgb_sysfs_attr.c`: an attribute that stores a string in an array of
ten bytes and shows it. The check admits ten bytes, and the terminator goes behind the
bytes; so the one length that fills the array puts it behind the array. The other attributes
of the driver, its loading and its log are left out.

The bytes that are stored lie on a page, with a terminator behind them.
-/

namespace LddExamples.LedColor

open ByteWindows KernelInterface StoreLogs StringBuffers

/-- The size of `color`. -/
def colorSize : Nat := 10

/-- The bytes that `strncpy` stores: those of the string, and zeros up to the count. -/
def strncpy (src : List UInt8) (count : Nat) : List UInt8 :=
  let text := beforeZero (src.take count)
  text ++ List.replicate (count - text.length) 0

/-- The stores of `color_store`: the copied bytes and the terminator. -/
def colorStores (buf : List UInt8) : List Chunk :=
  if colorSize < buf.length then []
  else [⟨0, strncpy buf buf.length⟩, ⟨buf.length, [0]⟩]

/-- `color_store` refuses more bytes than the array has, and copies the others without
asking where their terminator goes. It returns the length that it was given, also where a
zero byte has ended the copy. -/
def colorStore (color : Memory) (buf : List UInt8) : Memory × Int :=
  if colorSize < buf.length then (color, -einval)
  else (store (store color 0 (strncpy buf buf.length)) buf.length [0], buf.length)

/-- The string goes on to the first zero, wherever that is. -/
def colorShow (color : Memory) (terminated : ∃ index, color index = 0) : Reply :=
  let text := stringAt color terminated ++ textBytes "\n"
  ⟨text.length, text⟩

/-- The log is what the handler stores. -/
theorem color_store_log (color : Memory) (buf : List UInt8) :
    (colorStore color buf).1 = storeAll color (colorStores buf) := by
  simp only [colorStore, colorStores]
  split <;> rfl

/-- As many bytes are stored as there are. -/
theorem strncpy_length (src : List UInt8) : (strncpy src src.length).length = src.length := by
  have shorter : (beforeZero src).length ≤ src.length := (List.takeWhile_prefix _).length_le
  simp only [strncpy, List.take_length, List.length_append, List.length_replicate]
  omega

/-- Bytes without a zero are stored as they are. -/
theorem strncpy_nonzero (src : List UInt8) (nonzero : (0 : UInt8) ∉ src) :
    strncpy src src.length = src := by
  simp only [strncpy, List.take_length, (before_zero_eq_self_iff src).mpr nonzero, Nat.sub_self,
    List.replicate_zero, List.append_nil]

/-- Every index that is written to lies in the array, if and only if the bytes do not fill
it. -/
theorem written_in_color_iff (buf : List UInt8) :
    (∀ index ∈ written (colorStores buf), index < colorSize) ↔ buf.length ≠ colorSize := by
  by_cases long : colorSize < buf.length
  · have none : colorStores buf = [] := if_pos long
    rw [none]
    exact iff_of_true (fun index member => absurd member List.not_mem_nil) (by omega)
  · have stores : colorStores buf = [⟨0, strncpy buf buf.length⟩, ⟨buf.length, [0]⟩] := if_neg long
    rw [stores]
    constructor
    · intro inside full
      have last := inside buf.length
        ((mem_written_iff _ _).mpr ⟨⟨buf.length, [0]⟩, by simp, le_rfl, by simp⟩)
      omega
    · intro short
      apply written_below
      intro chunk member
      simp only [List.mem_cons, List.not_mem_nil, or_false] at member
      rcases member with rfl | rfl
      · simp only [strncpy_length]
        omega
      · simp only [List.length_singleton]
        omega

/-- A call stays in the array and keeps its word: its stores make the later colour of the
earlier one and write to no index beyond the array; after an error the colour is unchanged;
and if it takes all of the bytes and none is zero, there is a terminator in the array, and
the attribute shows the bytes and a newline. -/
def KeepsColor (color : Memory) (buf : List UInt8) : Prop :=
  (colorStore color buf).1 = storeAll color (colorStores buf) ∧
    (∀ index ∈ written (colorStores buf), index < colorSize) ∧
    ((colorStore color buf).2 < 0 → (colorStore color buf).1 = color) ∧
    ((colorStore color buf).2 = buf.length → (0 : UInt8) ∉ buf →
      (∃ index < colorSize, (colorStore color buf).1 index = 0) ∧
        ∀ terminated, (colorShow (colorStore color buf).1 terminated).data =
          buf ++ textBytes "\n")

/-- Every content of the array is kept so by exactly the calls whose bytes do not fill it. -/
theorem keeps_color_iff (color : Memory) (buf : List UInt8) :
    KeepsColor color buf ↔ buf.length ≠ colorSize := by
  constructor
  · exact fun keeps => (written_in_color_iff buf).mp keeps.2.1
  · intro short
    refine ⟨color_store_log color buf, (written_in_color_iff buf).mpr short, ?_⟩
    by_cases long : colorSize < buf.length
    · rw [show colorStore color buf = (color, -einval) from if_pos long]
      exact ⟨fun _ => rfl, fun impossible => absurd impossible (by simp only [einval]; omega)⟩
    · have fits : buf.length < colorSize := by omega
      have stored : colorStore color buf =
          (store (store color 0 (strncpy buf buf.length)) buf.length [0], (buf.length : Int)) :=
        if_neg long
      rw [stored]
      refine ⟨fun negative => absurd negative (by simp only; omega), fun _ nonzero => ?_⟩
      rw [strncpy_nonzero buf nonzero]
      have ends : ∃ index < colorSize,
          store (store color 0 buf) buf.length [0] index = 0 :=
        ⟨buf.length, fits, store_inside (store color 0 buf) buf.length [0] 0 Nat.zero_lt_one⟩
      refine ⟨ends, fun terminated => ?_⟩
      simp only [colorShow, string_at_eq colorSize _ terminated ends,
        string_stored colorSize color buf fits, (before_zero_eq_self_iff buf).mpr nonzero]

/-- Ten bytes are taken, and the terminator is written behind the array. -/
theorem ten_bytes_overrun :
    (colorStore (fun _ => 0) (textBytes "darkorange")).2 = (textBytes "darkorange").length ∧
      10 ∈ written (colorStores (textBytes "darkorange")) ∧
      ¬ KeepsColor (fun _ => 0) (textBytes "darkorange") := by
  have overrun : 10 ∈ written (colorStores (textBytes "darkorange")) := by decide
  exact ⟨by decide, overrun, fun keeps => absurd (keeps.2.1 10 overrun) (by decide)⟩

end LddExamples.LedColor
