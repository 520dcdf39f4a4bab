import LddExamples.ResourceLog
import LddExamples.StorageMirror

/-!
# The writes of a backup

A backup with all that it does: each call of `kernel_write`, the return value as the C int
that it is, and what it acquires and releases. However the writes are cut, they follow each
other through the mirror, and the first one that does not advance ends the loop. The file
then holds what was written before it, which is not the whole mirror.

The result of a write is a `ssize_t`, and it becomes the return value, which is an int. An
error that an int does not hold is returned as another one; if nothing is left of it, the
sum of the results still shows that bytes are missing.
-/

namespace LddExamples.BackupWrites

open ByteWindows KernelInterface ResourceLog StorageMirror

/-- A call of `kernel_write`: the position in the mirror and in the file, the requested
length, and the result. -/
structure Write where
  pos : Nat
  count : Nat
  rc : Int

/-- What a backup has to give back. -/
inductive Resource where
  | filp
  | mirrorMutex
deriving DecidableEq

/-- What the loop leaves, and its calls. -/
structure WriteLoop where
  ret : Int
  written : Int
  file : List UInt8
  writes : List Write

/-- The loop with one more call in front of its calls. -/
def WriteLoop.called (loop : WriteLoop) (write : Write) : WriteLoop :=
  { loop with writes := write :: loop.writes }

/-- A call that advances leaves less to write. -/
theorem remaining_shrinks (pos : Nat) (rc : Int) (unfinished : pos < mirrorTotalSize)
    (failed : ¬ rc < 0) (stalled : ¬ rc = 0) :
    mirrorTotalSize - (pos + rc.toNat) < mirrorTotalSize - pos := by
  omega

/-- The write loop from a position on, with its calls. -/
def writeLoop (kernelWrite : KernelWrite) (mirrorBuffer : Memory) (pos : Nat) (written : Int)
    (file : List UInt8) : WriteLoop :=
  if _ : pos < mirrorTotalSize then
    let toWrite := min mirrorTotalSize (mirrorTotalSize - pos)
    let rc := kernelWrite.result pos toWrite
    if _ : rc < 0 then ⟨wrapSigned 32 rc, written, file, [⟨pos, toWrite, rc⟩]⟩
    else if _ : rc = 0 then ⟨-eio, written, file, [⟨pos, toWrite, rc⟩]⟩
    else
      (writeLoop kernelWrite mirrorBuffer (pos + rc.toNat) (written + rc)
        (writeAt file pos (load mirrorBuffer pos rc.toNat))).called ⟨pos, toWrite, rc⟩
  else ⟨0, written, file, []⟩
termination_by mirrorTotalSize - pos
decreasing_by exact remaining_shrinks pos _ ‹_› ‹_› ‹_›

/-- The return value of a call that gets to its loop. -/
def returned (loop : WriteLoop) : Int :=
  if loop.ret ≠ 0 then loop.ret else if loop.written = mirrorTotalSize then 0 else -eio

/-- A backup call: its return value, the file if it was opened, the calls of
`kernel_write`, and what the call acquires and releases. -/
structure BackupRun where
  ret : Int
  file : Option (List UInt8)
  writes : List Write
  log : List (Entry Resource)

/-- The whole of `vblock_backup_to_file`. -/
def backupRun (mirrorBuffer : Memory) (path : List UInt8) (openError : Option Errno)
    (interrupted : Bool) (kernelWrite : KernelWrite) : BackupRun :=
  if path.headD 0 = 0 then ⟨-einval, none, [], []⟩
  else
    match openError with
    | some error => ⟨error.ret, none, [], []⟩
    | none =>
      if interrupted then ⟨-erestartsys, some [], [], [.acquire .filp, .release .filp]⟩
      else
        let loop := writeLoop kernelWrite mirrorBuffer 0 0 []
        ⟨returned loop, some loop.file, loop.writes,
          [.acquire .filp, .acquire .mirrorMutex, .release .mirrorMutex, .release .filp]⟩

/-- An error that an int holds stays as it is. -/
theorem wrap_error (rc : Int) (failed : rc < 0) (held : -2 ^ 31 ≤ rc) : wrapSigned 32 rc = rc := by
  simp only [wrapSigned, Int.bmod_def]
  omega

section Refinement

variable (kernelWrite : KernelWrite)
  (errors : ∀ pos count, -2 ^ 31 ≤ kernelWrite.result pos count)
include errors

/-- As long as an int holds the errors, the loop with its calls is the loop. -/
theorem write_loop_refines (mirrorBuffer : Memory) (pos : Nat) (written : Int)
    (file : List UInt8) :
    backupLoop kernelWrite mirrorBuffer pos written file =
      ⟨(writeLoop kernelWrite mirrorBuffer pos written file).ret,
        (writeLoop kernelWrite mirrorBuffer pos written file).written,
        (writeLoop kernelWrite mirrorBuffer pos written file).file⟩ := by
  induction remaining : mirrorTotalSize - pos using Nat.strongRecOn generalizing pos written file
  with
  | ind remaining inductionHypothesis =>
    rw [backupLoop, writeLoop]
    by_cases unfinished : pos < mirrorTotalSize
    · have held := errors pos (min mirrorTotalSize (mirrorTotalSize - pos))
      simp only [dif_pos unfinished]
      generalize kernelWrite.result pos (min mirrorTotalSize (mirrorTotalSize - pos)) = rc
        at held ⊢
      by_cases failed : rc < 0
      · simp only [dif_pos failed, wrap_error rc failed held]
      · by_cases stalled : rc = 0
        · simp only [dif_neg failed, dif_pos stalled]
        · simp only [dif_neg failed, dif_neg stalled]
          exact inductionHypothesis (mirrorTotalSize - (pos + rc.toNat)) (by omega) _ _ _ rfl
    · simp only [dif_neg unfinished]

/-- As long as an int holds the errors, a backup with all that it does is the backup of the
storage device. -/
theorem backup_run_refines (mirrorBuffer : Memory) (path : List UInt8)
    (openError : Option Errno) (interrupted : Bool) :
    vblockBackupToFile mirrorBuffer path openError interrupted kernelWrite =
      ⟨(backupRun mirrorBuffer path openError interrupted kernelWrite).ret,
        (backupRun mirrorBuffer path openError interrupted kernelWrite).file⟩ := by
  simp only [vblockBackupToFile, backupRun, returned, write_loop_refines kernelWrite errors]
  split
  · rfl
  · cases openError with
    | some error => rfl
    | none => cases interrupted <;> rfl

end Refinement

/-- The calls advance up to the last one, which does not, and gives the return value: its
error, as far as an int holds it, or an input or output error. -/
def FailsAtLast (writes : List Write) (ret : Int) : Prop :=
  ∃ earlier last, writes = earlier ++ [last] ∧ (∀ write ∈ earlier, 0 < write.rc) ∧
    ((last.rc < 0 ∧ (-2 ^ 31 ≤ last.rc → ret = last.rc)) ∨ (last.rc = 0 ∧ ret = -eio))

/-- A failure stays one with one more call that advances before it. -/
theorem fails_at_last_cons (write : Write) (writes : List Write) (ret : Int)
    (advances : 0 < write.rc) (fails : FailsAtLast writes ret) :
    FailsAtLast (write :: writes) ret := by
  obtain ⟨earlier, last, rfl, allAdvance, failure⟩ := fails
  refine ⟨write :: earlier, last, rfl, fun other member => ?_, failure⟩
  rcases List.mem_cons.mp member with rfl | member
  · exact advances
  · exact allAdvance other member

/-- The writes lie in the mirror from a position on, and there are no more of them than
there are bytes. -/
def Inside (pos : Nat) (writes : List Write) : Prop :=
  writes.length ≤ mirrorTotalSize - pos ∧
    ∀ write ∈ writes, pos ≤ write.pos ∧ write.pos + write.count ≤ mirrorTotalSize ∧
      write.rc ≤ write.count

/-- The last write from a position may end there. -/
theorem inside_last (kernelWrite : KernelWrite) (pos : Nat) (unfinished : pos < mirrorTotalSize) :
    Inside pos [⟨pos, mirrorTotalSize - pos,
      kernelWrite.result pos (mirrorTotalSize - pos)⟩] := by
  refine ⟨by rw [List.length_singleton]; omega, fun write member => ?_⟩
  rw [List.mem_singleton.mp member]
  exact ⟨le_rfl, by simp only; omega, kernelWrite.bounded _ _⟩

/-- Writes from a later position lie after one that advances to it. -/
theorem inside_cons (kernelWrite : KernelWrite) (pos : Nat) (writes : List Write)
    (unfinished : pos < mirrorTotalSize)
    (advances : 0 < kernelWrite.result pos (mirrorTotalSize - pos))
    (later : Inside (pos + (kernelWrite.result pos (mirrorTotalSize - pos)).toNat) writes) :
    Inside pos (⟨pos, mirrorTotalSize - pos,
      kernelWrite.result pos (mirrorTotalSize - pos)⟩ :: writes) := by
  obtain ⟨few, within⟩ := later
  refine ⟨by rw [List.length_cons]; omega, fun write member => ?_⟩
  rcases List.mem_cons.mp member with rfl | member
  · exact ⟨le_rfl, by simp only; omega, kernelWrite.bounded _ _⟩
  · obtain ⟨onward, rest⟩ := within write member
    exact ⟨by omega, rest⟩

/-- What the loop leaves: all of the mirror and no error, or less than all of it and the
failure of its last call. -/
def Outcome (mirrorBuffer : Memory) (loop : WriteLoop) : Prop :=
  (loop.ret = 0 ∧ loop.written = mirrorTotalSize ∧
      loop.file = load mirrorBuffer 0 mirrorTotalSize) ∨
    ∃ reached < mirrorTotalSize, loop.written = reached ∧
      loop.file = load mirrorBuffer 0 reached ∧ FailsAtLast loop.writes loop.ret

/-- The loop writes inside the mirror, and has one of the two outcomes.

Proof: by induction on the loop. While it runs, the file is the prefix up to the position
and the sum of the results is the position, and a call that advances extends both. -/
theorem write_loop_outcome (kernelWrite : KernelWrite) (mirrorBuffer : Memory) (pos : Nat)
    (within : pos ≤ mirrorTotalSize) :
    Inside pos (writeLoop kernelWrite mirrorBuffer pos pos (load mirrorBuffer 0 pos)).writes ∧
      Outcome mirrorBuffer
        (writeLoop kernelWrite mirrorBuffer pos pos (load mirrorBuffer 0 pos)) := by
  induction remaining : mirrorTotalSize - pos using Nat.strongRecOn generalizing pos with
  | ind remaining inductionHypothesis =>
    rw [writeLoop]
    by_cases unfinished : pos < mirrorTotalSize
    · have request : min mirrorTotalSize (mirrorTotalSize - pos) = mirrorTotalSize - pos := by omega
      have bounded := kernelWrite.bounded pos (mirrorTotalSize - pos)
      have last := inside_last kernelWrite pos unfinished
      have cons := inside_cons kernelWrite pos
      simp only [dif_pos unfinished, request]
      generalize kernelWrite.result pos (mirrorTotalSize - pos) = rc at bounded last cons ⊢
      by_cases failed : rc < 0
      · simp only [dif_pos failed]
        exact ⟨last, Or.inr ⟨pos, unfinished, rfl, rfl, [], _, rfl, by simp,
          Or.inl ⟨failed, wrap_error rc failed⟩⟩⟩
      · by_cases stalled : rc = 0
        · simp only [dif_neg failed, dif_pos stalled]
          subst stalled
          exact ⟨last, Or.inr ⟨pos, unfinished, rfl, rfl, [], _, rfl, by simp, Or.inr ⟨rfl, rfl⟩⟩⟩
        · have positive : 0 < rc := by omega
          have advance : (pos : Int) + rc = ((pos + rc.toNat : Nat) : Int) := by omega
          simp only [dif_neg failed, dif_neg stalled, writeAt_load, advance]
          obtain ⟨later, outcome⟩ := inductionHypothesis (mirrorTotalSize - (pos + rc.toNat))
            (by omega) (pos + rc.toNat) (by omega) rfl
          refine ⟨cons _ unfinished positive later, ?_⟩
          rcases outcome with complete | ⟨reached, short, sum, file, fails⟩
          · exact Or.inl complete
          · exact Or.inr ⟨reached, short, sum, file, fails_at_last_cons _ _ _ positive fails⟩
    · have finished : pos = mirrorTotalSize := by omega
      rw [dif_neg unfinished]
      refine ⟨⟨Nat.zero_le _, fun _ member => absurd member List.not_mem_nil⟩,
        Or.inl ⟨rfl, congrArg _ finished, ?_⟩⟩
      rw [finished]

/-- The return value tells the outcomes apart, also where an error becomes zero as an int. -/
theorem returned_outcome (mirrorBuffer : Memory) (loop : WriteLoop)
    (outcome : Outcome mirrorBuffer loop) :
    (returned loop = 0 ∧ loop.file = load mirrorBuffer 0 mirrorTotalSize) ∨
      (returned loop ≠ 0 ∧ FailsAtLast loop.writes (returned loop) ∧
        ∃ reached < mirrorTotalSize, loop.file = load mirrorBuffer 0 reached) := by
  rcases outcome with ⟨noError, all, file⟩ | ⟨reached, short, sum, file, fails⟩
  · refine Or.inl ⟨?_, file⟩
    rw [returned, if_neg (not_not.mpr noError), if_pos all]
  · have missing : loop.written ≠ mirrorTotalSize := by omega
    refine Or.inr ⟨?_, ?_, reached, short, file⟩
    · simp only [returned, if_neg missing, eio]
      split
      · assumption
      · decide
    · by_cases noError : loop.ret = 0
      · obtain ⟨earlier, last, split, advance, failure⟩ := fails
        refine ⟨earlier, last, split, advance, ?_⟩
        rw [noError] at failure
        rcases failure with ⟨negative, held⟩ | ⟨_, impossible⟩
        · exact Or.inl ⟨negative, fun inInt => absurd (held inInt) (Int.ne_of_gt negative)⟩
        · exact absurd impossible (by decide)
      · rw [returned, if_pos noError]
        exact fails

/-- A call gets to its writes: the path is not empty, the file can be opened, and no signal
ends the wait for the mutex. -/
def Reaches (path : List UInt8) (openError : Option Errno) (interrupted : Bool) : Prop :=
  path.headD 0 ≠ 0 ∧ openError = none ∧ interrupted = false

/-- The file starts with the whole mirror. -/
def HoldsMirror (mirrorBuffer : Memory) (file : Option (List UInt8)) : Prop :=
  ∃ bytes, file = some bytes ∧ bytes.take mirrorTotalSize = load mirrorBuffer 0 mirrorTotalSize

/-- The beginning of a mirror is the whole of it exactly if it is as long. -/
theorem holds_mirror_load_iff (mirrorBuffer : Memory) (reached : Nat) :
    HoldsMirror mirrorBuffer (some (load mirrorBuffer 0 reached)) ↔ mirrorTotalSize ≤ reached := by
  constructor
  · rintro ⟨bytes, same, whole⟩
    have lengths := congrArg List.length whole
    rw [← Option.some.inj same, List.length_take, load_length, load_length] at lengths
    omega
  · intro long
    refine ⟨_, rfl, ?_⟩
    rw [take_load, Nat.min_eq_left long]

/-- Whatever is acquired is acquired and released exactly once, the latest first. -/
def GivesBack (log : List (Entry Resource)) : Prop :=
  replay [] log = some [] ∧ ∀ resource ∈ acquired log,
    (acquired log).count resource = 1 ∧ (released log).count resource = 1

instance (log : List (Entry Resource)) : Decidable (GivesBack log) :=
  inferInstanceAs (Decidable (_ ∧ _))

/-- A file that was not opened, or to which nothing was written, does not hold the mirror. -/
theorem not_holds_unwritten (mirrorBuffer : Memory) (file : Option (List UInt8))
    (unwritten : file = none ∨ file = some []) : ¬ HoldsMirror mirrorBuffer file := by
  rcases unwritten with rfl | rfl
  · rintro ⟨bytes, opened, _⟩
    exact absurd opened (by simp)
  · have nothing := holds_mirror_load_iff mirrorBuffer 0
    rw [load_zero] at nothing
    rw [nothing]
    decide

/-- A call that does not get to its writes fails, and gives back what it has acquired. -/
theorem backup_run_early (mirrorBuffer : Memory) (path : List UInt8) (openError : Option Errno)
    (interrupted : Bool) (kernelWrite : KernelWrite)
    (early : ¬ Reaches path openError interrupted) :
    ∃ ret file log,
      backupRun mirrorBuffer path openError interrupted kernelWrite = ⟨ret, file, [], log⟩ ∧
        ret < 0 ∧ (file = none ∨ file = some []) ∧
        (file.isSome = true ↔ .filp ∈ acquired log) ∧ GivesBack log := by
  by_cases unnamed : path.headD 0 = 0
  · exact ⟨-einval, none, [], if_pos unnamed, by decide, Or.inl rfl, by decide, by decide⟩
  · cases openError with
    | some error =>
      exact ⟨error.ret, none, [], if_neg unnamed, error.ret_neg, Or.inl rfl, by decide,
        by decide⟩
    | none =>
      cases interrupted with
      | true =>
        exact ⟨-erestartsys, some [], [.acquire .filp, .release .filp], if_neg unnamed, by decide,
          Or.inr rfl, by decide, by decide⟩
      | false => exact absurd ⟨unnamed, rfl, rfl⟩ early

/-- A call that gets to its writes leaves what its loop does. -/
theorem backup_run_reached (mirrorBuffer : Memory) (path : List UInt8) (kernelWrite : KernelWrite)
    (named : path.headD 0 ≠ 0) :
    backupRun mirrorBuffer path none false kernelWrite =
      let loop := writeLoop kernelWrite mirrorBuffer 0 0 []
      ⟨returned loop, some loop.file, loop.writes,
        [.acquire .filp, .acquire .mirrorMutex, .release .mirrorMutex, .release .filp]⟩ := by
  simp only [backupRun, if_neg named, Bool.false_eq_true, if_false]

/-- The calls of a loop from a position on. Each asks for the rest of the mirror and has the
result that the kernel gives there; the next one begins where it ends; none follows one that
does not advance; and the calls end otherwise only at the end of the mirror. -/
def Chained (kernelWrite : KernelWrite) : Nat → List Write → Prop
  | pos, [] => mirrorTotalSize ≤ pos
  | pos, write :: rest =>
      pos < mirrorTotalSize ∧
        write = ⟨pos, mirrorTotalSize - pos, kernelWrite.result pos (mirrorTotalSize - pos)⟩ ∧
        if 0 < write.rc then Chained kernelWrite (pos + write.rc.toNat) rest else rest = []

/-- The bytes that the calls have written. One that does not advance has written none. -/
def advanced (writes : List Write) : Nat := (writes.map fun write => write.rc.toNat).sum

theorem advanced_cons (write : Write) (rest : List Write) :
    advanced (write :: rest) = write.rc.toNat + advanced rest := by
  simp only [advanced, List.map_cons, List.sum_cons]

/-- The calls of the loop are chained from its position, and the file is the mirror up to where
they have come.

Proof: by induction on the loop, whose file is the prefix up to the position. -/
theorem write_loop_chained (kernelWrite : KernelWrite) (mirrorBuffer : Memory) (pos : Nat)
    (written : Int) :
    let loop := writeLoop kernelWrite mirrorBuffer pos written (load mirrorBuffer 0 pos)
    Chained kernelWrite pos loop.writes ∧
      loop.file = load mirrorBuffer 0 (pos + advanced loop.writes) := by
  induction remaining : mirrorTotalSize - pos using Nat.strongRecOn generalizing pos written with
  | ind remaining inductionHypothesis =>
    rw [writeLoop]
    by_cases unfinished : pos < mirrorTotalSize
    · have request : min mirrorTotalSize (mirrorTotalSize - pos) = mirrorTotalSize - pos := by omega
      simp only [dif_pos unfinished, request]
      generalize result : kernelWrite.result pos (mirrorTotalSize - pos) = rc
      by_cases failed : rc < 0
      · have still : ¬ 0 < rc := by omega
        have none : advanced [⟨pos, mirrorTotalSize - pos, rc⟩] = 0 := by
          rw [advanced_cons, advanced, Int.toNat_of_nonpos (Int.le_of_lt failed)]
          rfl
        simp only [dif_pos failed, Chained, result, if_neg still, none, Nat.add_zero, and_self,
          unfinished]
      · by_cases stalled : rc = 0
        · subst stalled
          have none : advanced [⟨pos, mirrorTotalSize - pos, 0⟩] = 0 := rfl
          simp only [dif_neg failed, dif_pos trivial, Chained, result, if_neg failed, none,
            Nat.add_zero, and_self, unfinished]
        · have positive : 0 < rc := by omega
          simp only [dif_neg failed, dif_neg stalled, writeAt_load, WriteLoop.called]
          obtain ⟨later, file⟩ := inductionHypothesis (mirrorTotalSize - (pos + rc.toNat))
            (by omega) (pos + rc.toNat) (written + rc) rfl
          refine ⟨⟨unfinished, by rw [result], ?_⟩, ?_⟩
          · rw [if_pos positive]
            exact later
          · rw [file, advanced_cons, Nat.add_assoc]
    · rw [dif_neg unfinished]
      exact ⟨Nat.not_lt.mp unfinished, by rw [advanced]; rfl⟩

/-- Chained calls stay in the mirror, and they reach its end exactly if they all advance. -/
theorem chained_advanced (kernelWrite : KernelWrite) (pos : Nat) (writes : List Write)
    (chained : Chained kernelWrite pos writes) (within : pos ≤ mirrorTotalSize) :
    pos + advanced writes ≤ mirrorTotalSize ∧
      (mirrorTotalSize ≤ pos + advanced writes ↔ ∀ write ∈ writes, 0 < write.rc) := by
  induction writes generalizing pos with
  | nil =>
    have finished : mirrorTotalSize ≤ pos := chained
    have none : advanced [] = 0 := rfl
    rw [none]
    exact ⟨by omega, iff_of_true (by omega) (by simp)⟩
  | cons write rest inductionHypothesis =>
    obtain ⟨unfinished, same, next⟩ := chained
    have bounded := kernelWrite.bounded pos (mirrorTotalSize - pos)
    have rc : write.rc = kernelWrite.result pos (mirrorTotalSize - pos) := by rw [same]
    rw [← rc] at bounded
    rw [advanced_cons, ← Nat.add_assoc]
    by_cases advances : 0 < write.rc
    · rw [if_pos advances] at next
      obtain ⟨inside, complete⟩ := inductionHypothesis (pos + write.rc.toNat) next (by omega)
      refine ⟨inside, complete.trans ?_⟩
      rw [List.forall_mem_cons, and_iff_right advances]
    · rw [if_neg advances] at next
      have none : advanced rest = 0 := by rw [next]; rfl
      rw [none, Int.toNat_of_nonpos (Int.not_lt.mp advances)]
      refine ⟨by omega, iff_of_false (by omega) fun all => ?_⟩
      exact advances (all write List.mem_cons_self)

/-- For every mirror and all results of `kernel_write`, the writes lie in the mirror, and
there are no more of them than it has bytes; the call returns 0 if and only if the file
holds the whole mirror. A call that gets to its writes makes them one behind the other, each
with the result that the kernel gives it, and the file is the mirror up to where they have
come; it returns 0 exactly if all of them advance, and else the failure of its last write, which
is the first that does not advance. Another call writes nothing and fails. The file is closed
if it was opened, and the mutex and the file are given back exactly once. -/
theorem backup_complete_or_reported (mirrorBuffer : Memory) (path : List UInt8)
    (openError : Option Errno) (interrupted : Bool) (kernelWrite : KernelWrite) :
    let run := backupRun mirrorBuffer path openError interrupted kernelWrite
    Inside 0 run.writes ∧ (run.ret = 0 ↔ HoldsMirror mirrorBuffer run.file) ∧
      (Reaches path openError interrupted →
        Chained kernelWrite 0 run.writes ∧
          run.file = some (load mirrorBuffer 0 (advanced run.writes)) ∧
          (run.ret = 0 ↔ ∀ write ∈ run.writes, 0 < write.rc) ∧
          (run.ret ≠ 0 → FailsAtLast run.writes run.ret ∧
            advanced run.writes < mirrorTotalSize)) ∧
      (¬ Reaches path openError interrupted → run.writes = [] ∧ run.ret < 0) ∧
      (run.file.isSome = true ↔ .filp ∈ acquired run.log) ∧ GivesBack run.log ∧
      (Reaches path openError interrupted → released run.log = [.mirrorMutex, .filp]) := by
  by_cases reaches : Reaches path openError interrupted
  · obtain ⟨named, rfl, rfl⟩ := reaches
    obtain ⟨inside, outcome⟩ := write_loop_outcome kernelWrite mirrorBuffer 0 (Nat.zero_le _)
    obtain ⟨chained, file⟩ := write_loop_chained kernelWrite mirrorBuffer 0 0
    rw [load_zero, Int.natCast_zero] at inside outcome
    rw [load_zero] at chained file
    rw [Nat.zero_add] at file
    obtain ⟨few, complete⟩ := chained_advanced kernelWrite 0 _ chained (Nat.zero_le _)
    rw [Nat.zero_add] at few complete
    rw [backup_run_reached mirrorBuffer path kernelWrite named]
    have told : returned (writeLoop kernelWrite mirrorBuffer 0 0 []) = 0 ↔
        HoldsMirror mirrorBuffer (some (writeLoop kernelWrite mirrorBuffer 0 0 []).file) := by
      rcases returned_outcome mirrorBuffer _ outcome with
        ⟨zero, whole⟩ | ⟨nonzero, _, reached, short, part⟩
      · exact iff_of_true zero (by simp only [whole, holds_mirror_load_iff, le_refl])
      · exact iff_of_false nonzero (by simp only [part, holds_mirror_load_iff]; omega)
    have all := told
    rw [file, holds_mirror_load_iff, complete] at all
    refine ⟨inside, told, fun _ => ⟨chained, congrArg some file, all, fun failed => ⟨?_, ?_⟩⟩,
      fun early => absurd ⟨named, rfl, rfl⟩ early, iff_of_true rfl List.mem_cons_self,
      show GivesBack [_, _, _, _] by decide, fun _ => rfl⟩
    · rcases returned_outcome mirrorBuffer _ outcome with ⟨zero, _⟩ | ⟨_, fails, _⟩
      · exact absurd zero failed
      · exact fails
    · by_contra whole
      exact failed (all.mpr (complete.mp (Nat.not_lt.mp whole)))
  · obtain ⟨ret, file, log, left, negative, unwritten, opened, balanced⟩ :=
      backup_run_early mirrorBuffer path openError interrupted kernelWrite reaches
    rw [left]
    exact ⟨⟨Nat.zero_le _, fun _ member => absurd member List.not_mem_nil⟩,
      iff_of_false (Int.ne_of_lt negative) (not_holds_unwritten mirrorBuffer file unwritten),
      fun reached => absurd reached reaches, fun _ => ⟨rfl, negative⟩, opened, balanced,
      fun reached => absurd reached reaches⟩

end LddExamples.BackupWrites
