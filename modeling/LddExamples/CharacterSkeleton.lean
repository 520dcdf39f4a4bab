import LddExamples.Runs
import LddExamples.KernelInterface

/-!
# The character driver skeleton

`011_chrdev_skeleton/driver.c`: one buffer of 1024 bytes and the length of its
content. The position that a caller passes is not negative, so the tests between
positions and lengths are those of natural numbers, and what they leave fits
`size_t` on every kernel. Opening and closing only log; a seek of the kernel's
default handler sets a file's position.
-/

namespace LddExamples.CharacterSkeleton

open ByteWindows KernelInterface

/-- `BUF_SIZE`, the bytes of the buffer. -/
def bufSize : Nat := 1024

/-- The buffer, and where the last write has ended in it. -/
structure Skeleton where
  buffer : Memory
  bufferSize : Nat

/-- A read from an offset returns what lies between it and the end of the last write, as far
as it was asked for; behind that end it returns zero. A copy that fails leaves the offset.
-/
def myRead (skeleton : Skeleton) (len room pos : Nat) : Served :=
  if skeleton.bufferSize ≤ pos then ⟨0, pos, []⟩
  else
    let available := skeleton.bufferSize - pos
    let len := if available < len then available else len
    let (data, missing) := copyToUser (load skeleton.buffer pos len) room
    if missing ≠ 0 then ⟨-efault, pos, data⟩ else ⟨len, pos + len, data⟩

/-- A write stores what the buffer has room for, and takes its own end for that of the
content, also when it lies in front of the earlier one. A copy that fails leaves the offset
and that end, and the bytes that it has stored. -/
def myWrite (skeleton : Skeleton) (source : UserSource) (len pos : Nat) : Stored Skeleton :=
  if bufSize ≤ pos then ⟨skeleton, -enospc, pos⟩
  else
    let available := bufSize - pos
    let len := if available < len then available else len
    let (buffer, missing) := copyFromUser skeleton.buffer pos source len
    if missing ≠ 0 then ⟨{ skeleton with buffer := buffer }, -efault, pos⟩
    else ⟨⟨buffer, pos + len⟩, len, pos + len⟩

/-- The driver and the positions of the open files. -/
structure System where
  skeleton : Skeleton
  positions : Positions

/-- The calls on open files, each read or write at the file's position or at one of its own.
-/
inductive Call where
  | read (file : Nat) (place : Place) (len room : Nat)
  | write (file : Nat) (place : Place) (len : Nat) (source : UserSource)
  | seek (file position : Nat)

/-- One complete call. -/
def step (system : System) : Call → System × Reply
  | .read file place len room =>
      let offset := place.offset system.positions file
      if loffLimit ≤ offset then (system, ⟨-einval, []⟩)
      else
        let served := myRead system.skeleton (min len maxRwCount) room offset
        ({ system with positions := place.commit system.positions file served.offset },
          ⟨served.ret, served.data⟩)
  | .write file place len source =>
      let offset := place.offset system.positions file
      if loffLimit ≤ offset then (system, ⟨-einval, []⟩)
      else
        let stored := myWrite system.skeleton source (min len maxRwCount) offset
        (⟨stored.state, place.commit system.positions file stored.offset⟩, ⟨stored.ret, []⟩)
  | .seek file position =>
      if loffLimit ≤ position then (system, ⟨-einval, []⟩)
      else
        ({ system with positions := Function.update system.positions file position },
          ⟨position, []⟩)

/-- The loaded driver: static storage is zero and nothing has been written. -/
def loaded (positions : Positions) : System := ⟨⟨fun _ => 0, 0⟩, positions⟩

/-- A read is a window read of the content. -/
theorem my_read_window (skeleton : Skeleton) (len room pos : Nat) :
    myRead skeleton len room pos = windowRead skeleton.buffer skeleton.bufferSize pos len room := by
  have clamp : (if skeleton.bufferSize - pos < len then skeleton.bufferSize - pos else len) =
      min len (skeleton.bufferSize - pos) := by
    split <;> omega
  simp only [myRead, windowRead, clamp]

/-- A write that starts past the buffer fails and changes nothing. -/
theorem my_write_past (skeleton : Skeleton) (source : UserSource) (len pos : Nat)
    (past : bufSize ≤ pos) : myWrite skeleton source len pos = ⟨skeleton, -enospc, pos⟩ :=
  if_pos past

/-- A write inside the buffer stores what its copy delivers. A complete copy ends
the content where the write ends; any other fails and leaves the length. -/
theorem my_write_inside (skeleton : Skeleton) (source : UserSource) (len pos : Nat)
    (inside : pos < bufSize) :
    myWrite skeleton source len pos =
      if source.uncopied (min len (bufSize - pos)) ≠ 0 then
        ⟨⟨store skeleton.buffer pos (source.landed (min len (bufSize - pos))),
          skeleton.bufferSize⟩, -efault, pos⟩
      else
        ⟨⟨store skeleton.buffer pos (source.landed (min len (bufSize - pos))),
          pos + min len (bufSize - pos)⟩,
          (min len (bufSize - pos) : Nat), pos + min len (bufSize - pos)⟩ := by
  have clamp : (if bufSize - pos < len then bufSize - pos else len) = min len (bufSize - pos) := by
    split <;> omega
  simp only [myWrite, if_neg (Nat.not_le_of_lt inside), clamp, copyFromUser]

/-- The content fits the buffer in every run from loading. -/
theorem bounded_after (positions : Positions) (calls : List Call) :
    (Runs.after step (loaded positions) calls).skeleton.bufferSize ≤ bufSize := by
  refine Runs.invariant_after step (fun system => system.skeleton.bufferSize ≤ bufSize) ?_
    (loaded positions) calls (Nat.zero_le _)
  intro system call bounded
  cases call with
  | read =>
    simp only [step]
    split <;> exact bounded
  | seek =>
    simp only [step]
    split <;> exact bounded
  | write file place len source =>
    simp only [step]
    split
    · exact bounded
    · by_cases past : bufSize ≤ place.offset system.positions file
      · rw [my_write_past _ _ _ _ past]
        exact bounded
      · rw [my_write_inside _ _ _ _ (Nat.lt_of_not_le past)]
        split
        · exact bounded
        · simp only
          omega

end LddExamples.CharacterSkeleton
