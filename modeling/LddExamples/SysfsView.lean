import LddExamples.MultiMinorDevice
import LddExamples.StringBuffers

/-!
# The data attribute of the multi-minor driver

The attribute shows the buffer as a C string: its formatting stops at the length of
the content and at the first zero byte, whichever comes first, and a newline
follows. A read of the character device counts bytes and never looks at them. The
two agree exactly on contents without a zero byte; a write of such a byte, and a
hole left by a seek, make contents that the attribute cuts short.

A page is taken to have room for the longest content, its newline and a terminator.
-/

namespace LddExamples.SysfsView

open Runs ByteWindows KernelInterface StringBuffers MultiMinorDevice

/-- An attribute's output on a page of any size, cut to it less its terminator. -/
def sysfsEmitOnPage (page : Nat) (text : List UInt8) : Reply :=
  ⟨(text.take (page - 1)).length, text.take (page - 1)⟩

/-- `data_show` on a page of any size. -/
def dataShowOnPage (page : Nat) (devices : Devices) (drvdata : Option Minor)
    (interrupted : Bool) : Reply :=
  underLock drvdata interrupted (fun error => ⟨error, []⟩) fun minor =>
    let d := devices minor
    sysfsEmitOnPage page (formatString (wrapSigned 32 d.len) d.buf ++ [newline])

/-- The handler works on the kernel's page. -/
theorem data_show_page (devices : Devices) (drvdata : Option Minor) (interrupted : Bool) :
    dataShow devices drvdata interrupted = dataShowOnPage pageSize devices drvdata interrupted :=
  rfl

/-- The text of a content that fits its buffer is the string in it. -/
theorem format_content (d : MydevDevice) (bounded : d.len ≤ bufSize) :
    formatString (wrapSigned 32 d.len) d.buf = stringIn d.len d.buf := by
  have small : d.len ≤ 1024 := bounded
  have precision : wrapSigned 32 (d.len : Int) = d.len := by
    simp only [wrapSigned, Int.bmod_def]
    omega
  have reach : min d.len precisionMax = d.len := by
    simp only [precisionMax]
    omega
  rw [formatString, precision, Int.toNat_natCast, reach]
  rfl

/-- On a page with room for it, the attribute shows the string in the content and a
newline. -/
theorem data_show_text (page : Nat) (devices : Devices) (minor : Minor)
    (bounded : (devices minor).len ≤ bufSize) (roomy : bufSize + 1 < page) :
    let text := stringIn (devices minor).len (devices minor).buf ++ [newline]
    dataShowOnPage page devices (some minor) false = ⟨text.length, text⟩ := by
  intro text
  have shorter : text.length ≤ (devices minor).len + 1 := by
    have within := string_within (devices minor).len (devices minor).buf
    simp only [text, List.length_append, List.length_singleton]
    omega
  have whole : text.take (page - 1) = text := List.take_of_length_le (by omega)
  simp only [dataShowOnPage, underLock_some, format_content _ bounded, sysfsEmitOnPage]
  rw [whole]

/-- A read of the whole content returns its bytes. -/
theorem read_content (word : Word) (devices : Devices) (minor : Minor) (count room : Nat)
    (bounded : (devices minor).len ≤ bufSize) (large : bufSize ≤ count) (roomy : bufSize ≤ room) :
    (mydevRead word devices (some minor) count room 0 false).data =
      load (devices minor).buf 0 (devices minor).len := by
  have reach : min count ((devices minor).len - 0) = (devices minor).len := by omega
  rw [mydev_read_window word devices minor count room 0 bounded start_admitted]
  by_cases none : (devices minor).len ≤ 0
  · rw [windowRead, if_pos none, Nat.le_zero.mp none]
    rfl
  · have missing : (devices minor).len - room = 0 := by omega
    have all : (load (devices minor).buf 0 (devices minor).len).take room =
        load (devices minor).buf 0 (devices minor).len :=
      List.take_of_length_le (by rw [load_length]; omega)
    simp only [windowRead, if_neg none, reach, copyToUser, load_length, missing, all, ne_eq,
      not_true_eq_false, if_false]

/-- In every state that a run reaches, the attribute shows what a read of the whole
device returns, and a newline, exactly when the content has no zero byte. -/
theorem sysfs_view_iff (word : Word) (memory : Minor → Memory) (calls : List Call) (minor : Minor)
    (page count room : Nat) (pageRoom : bufSize + 1 < page) (large : bufSize ≤ count)
    (roomy : bufSize ≤ room) :
    let devices := (after (step word) (loaded memory) calls).devices
    let d := devices minor
    dataShowOnPage page devices (some minor) false =
        ⟨(d.len + 1 : Nat),
          (mydevRead word devices (some minor) count room 0 false).data ++ [newline]⟩ ↔
      ∀ index < d.len, d.buf index ≠ 0 := by
  intro devices d
  have bounded : d.len ≤ bufSize := bounded_after word memory calls minor
  have shown := data_show_text page devices minor bounded pageRoom
  rw [shown, read_content word devices minor count room bounded large roomy,
    ← string_whole_iff d.len d.buf]
  constructor
  · exact fun same => List.append_cancel_right (congrArg Reply.data same)
  · intro whole
    rw [whole, List.length_append, load_length, List.length_singleton]

/-- A device into which two letters are written shows them, on the page that the kernel has. -/
theorem letters_shown :
    let devices := (after (step .bits64) (loaded fun _ _ => 0)
      [.openFile 0 firstMinor, .write 0 .current 2 (.ofBytes [104, 105]) false]).devices
    dataShow devices (some firstMinor) false =
      ⟨(3 : Nat),
        (mydevRead .bits64 devices (some firstMinor) 1024 1024 0 false).data ++ [newline]⟩ :=
  (data_show_page _ _ _).trans ((sysfs_view_iff .bits64 (fun _ _ => 0)
    [.openFile 0 firstMinor, .write 0 .current 2 (.ofBytes [104, 105]) false] firstMinor pageSize
    1024 1024 (by decide) (by decide) (by decide)).mpr (by decide))

/-- Three bytes of which the middle one is zero are written. -/
def binaryRun : List Call :=
  [.openFile 0 firstMinor, .write 0 .current 3 (.ofBytes [65, 0, 66]) false]

/-- A read returns all three, the attribute only the first. -/
theorem zero_byte_hides_rest :
    let devices := (after (step .bits64) (loaded fun _ _ => 0) binaryRun).devices
    (mydevRead .bits64 devices (some firstMinor) 1024 1024 0 false).data = [65, 0, 66] ∧
      dataShow devices (some firstMinor) false = ⟨2, [65, newline]⟩ ∧
      dataShowOnPage 4096 devices (some firstMinor) false ≠
        ⟨((devices firstMinor).len + 1 : Nat),
          (mydevRead .bits64 devices (some firstMinor) 1024 1024 0 false).data ++ [newline]⟩ := by
  decide

end LddExamples.SysfsView
