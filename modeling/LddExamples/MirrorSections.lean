import LddExamples.BackupWrites
import LddExamples.LockedSections

/-!
# The mirror, one access at a time

`mirror_sector` and `vblock_backup_to_file` of
`003_char_block_storage_device/storage_mirror_kernel.c` as the sections under `mirror_mutex`
that they are. Every byte that a copy moves is a step, and so is every call of
`kernel_write`; the steps of any number of threads come in any order.

A copy reads the buffer of the storage device without `storage_mutex`, so that what it finds
at each byte is data of the call. A backup has a file of its own, which it opens before it
waits for the mutex. A call whose wait a signal ends is not among the calls: it has no
section.
-/

namespace LddExamples.MirrorSections

open Runs ByteWindows KernelInterface StorageMirror BackupWrites
open LockedSections hiding step

/-- The calls that wait for the mutex: a sector inside the mirror with what the copy finds
there, and a backup whose path is not empty and whose file could be opened. -/
inductive MirrorCall where
  | mirror (sector : Int) (lower : 0 ≤ sector) (upper : sector < mirrorNumSectors)
      (data : List UInt8)
  | backup (path : List UInt8) (named : path.headD 0 ≠ 0) (kernelWrite : KernelWrite)

/-- What a section does next, with what it has done. -/
inductive Locals where
  | copy (data : List UInt8) (index : Nat)
  | dump (kernelWrite : KernelWrite) (pos : Nat) (written : Int) (file : List UInt8)
      (writes : List Write)

/-- What a call returns: nothing, or what a backup leaves. -/
inductive Answer where
  | mirrored
  | dumped (run : BackupRun)

/-- What a backup leaves, from what its loop does. -/
def dumpAnswer (loop : WriteLoop) : Answer :=
  .dumped ⟨returned loop, some loop.file, loop.writes,
    [.acquire .filp, .acquire .mirrorMutex, .release .mirrorMutex, .release .filp]⟩

/-- One byte of a copy, or one turn of the write loop. -/
def access (mirrorBuffer : Memory) : Locals → Memory × Progress Locals Answer
  | .copy data index =>
      match data with
      | [] => (mirrorBuffer, .ends .mirrored)
      | byte :: data => (store mirrorBuffer index [byte], .goesOn (.copy data (index + 1)))
  | .dump kernelWrite pos written file writes =>
      if pos < mirrorTotalSize then
        let toWrite := min mirrorTotalSize (mirrorTotalSize - pos)
        let rc := kernelWrite.result pos toWrite
        let called := writes ++ [⟨pos, toWrite, rc⟩]
        if rc < 0 then
          (mirrorBuffer, .ends (dumpAnswer ⟨wrapSigned 32 rc, written, file, called⟩))
        else if rc = 0 then
          (mirrorBuffer, .ends (dumpAnswer ⟨-eio, written, file, called⟩))
        else
          (mirrorBuffer, .goesOn (.dump kernelWrite (pos + rc.toNat) (written + rc)
            (writeAt file pos (load mirrorBuffer pos rc.toNat)) called))
      else (mirrorBuffer, .ends (dumpAnswer ⟨0, written, file, writes⟩))

/-- The accesses that a section has left, at most. -/
def accessesLeft : Locals → Nat
  | .copy data _ => data.length
  | .dump _ pos _ _ _ => mirrorTotalSize - pos

/-- Every access that does not end its section leaves fewer. -/
theorem accesses_shrink (mirrorBuffer : Memory) (locals : Locals) (next : Memory) (rest : Locals)
    (went : access mirrorBuffer locals = (next, .goesOn rest)) :
    accessesLeft rest < accessesLeft locals := by
  cases locals with
  | copy data index =>
    cases data with
    | nil => simp [access] at went
    | cons byte data =>
      rw [← Progress.goesOn.inj (Prod.mk.inj went).2]
      exact Nat.lt_succ_self _
  | dump kernelWrite pos written file writes =>
    simp only [access] at went
    split at went
    · next unfinished =>
      split at went
      · simp at went
      · next notFailed =>
        split at went
        · simp at went
        · next notStalled =>
          rw [← Progress.goesOn.inj (Prod.mk.inj went).2]
          exact remaining_shrinks pos _ unfinished notFailed notStalled
    · simp at went

/-- The two functions of the mirror by the accesses of their sections. -/
def code : Code Memory MirrorCall Locals Answer where
  start
    | .mirror sector _ _ data => .copy data (sector.toNat * mirrorSectorSize)
    | .backup _ _ kernelWrite => .dump kernelWrite 0 0 [] []
  access := access
  left := accessesLeft
  shrinks := accesses_shrink

/-- The calls at once. -/
def handle (mirrorBuffer : Memory) : MirrorCall → Memory × Answer
  | .mirror sector _ _ data => (mirrorSector mirrorBuffer sector data false, .mirrored)
  | .backup path _ kernelWrite =>
      (mirrorBuffer, .dumped (backupRun mirrorBuffer path none false kernelWrite))

/-- A copy stores its bytes. -/
theorem whole_copy (mirrorBuffer : Memory) (data : List UInt8) (index : Nat) :
    code.whole mirrorBuffer (.copy data index) = (store mirrorBuffer index data, .mirrored) := by
  induction data generalizing mirrorBuffer index with
  | nil => rw [whole_ends code mirrorBuffer mirrorBuffer (.copy [] index) .mirrored rfl, store_nil]
  | cons byte data inductionHypothesis =>
    have joined := store_append mirrorBuffer index [byte] data
    rw [whole_goes_on code mirrorBuffer _ (.copy (byte :: data) index) _ rfl, inductionHypothesis]
    exact congrArg (fun buffer => (buffer, Answer.mirrored)) joined

/-- A backup does what its loop does, after the writes that it has called.

Proof: by induction on the bytes that are left, with the cases of the loop. -/
theorem whole_dump (mirrorBuffer : Memory) (kernelWrite : KernelWrite) (pos : Nat) (written : Int)
    (file : List UInt8) (writes : List Write) :
    code.whole mirrorBuffer (.dump kernelWrite pos written file writes) =
      let loop := writeLoop kernelWrite mirrorBuffer pos written file
      (mirrorBuffer, dumpAnswer { loop with writes := writes ++ loop.writes }) := by
  induction remaining : mirrorTotalSize - pos using Nat.strongRecOn
    generalizing pos written file writes with
  | ind remaining inductionHypothesis =>
    have first (next : Memory) (progress : Progress Locals Answer)
        (went : access mirrorBuffer (.dump kernelWrite pos written file writes) =
          (next, progress)) :
        code.access mirrorBuffer (.dump kernelWrite pos written file writes) = (next, progress) :=
      went
    simp only [access] at first
    rw [writeLoop]
    by_cases unfinished : pos < mirrorTotalSize
    · simp only [dif_pos unfinished, if_pos unfinished] at first ⊢
      generalize result : kernelWrite.result pos (min mirrorTotalSize (mirrorTotalSize - pos)) = rc
        at first ⊢
      by_cases failed : rc < 0
      · simp only [dif_pos failed, if_pos failed] at first ⊢
        exact whole_ends code _ _ _ _ (first _ _ rfl)
      · by_cases stalled : rc = 0
        · simp only [dif_neg failed, dif_pos stalled, if_neg failed, if_pos stalled] at first ⊢
          exact whole_ends code _ _ _ _ (first _ _ rfl)
        · simp only [dif_neg failed, dif_neg stalled, if_neg failed, if_neg stalled] at first ⊢
          have shorter := remaining_shrinks pos rc unfinished failed stalled
          rw [whole_goes_on code _ _ _ _ (first _ _ rfl),
            inductionHypothesis _ (remaining ▸ shorter) _ _ _ _ rfl]
          simp only [WriteLoop.called, List.append_assoc, List.singleton_append]
    · simp only [dif_neg unfinished, if_neg unfinished] at first ⊢
      rw [whole_ends code _ _ _ _ (first _ _ rfl), List.append_nil]

/-- A section executed whole is the call at once. -/
theorem whole_handles (mirrorBuffer : Memory) (call : MirrorCall) :
    code.whole mirrorBuffer (code.start call) = handle mirrorBuffer call := by
  cases call with
  | mirror sector lower upper data =>
    have inside : ¬ (sector < 0 ∨ mirrorNumSectors ≤ sector) := by omega
    have copied := whole_copy mirrorBuffer data (sector.toNat * mirrorSectorSize)
    simp only [code] at copied ⊢
    rw [copied]
    simp only [handle, mirrorSector, if_neg inside, Bool.false_eq_true, if_false]
  | backup path named kernelWrite =>
    have dumped := whole_dump mirrorBuffer kernelWrite 0 0 [] []
    simp only [code] at dumped ⊢
    rw [dumped]
    simp only [handle, dumpAnswer, List.nil_append, backup_run_reached mirrorBuffer path kernelWrite
      named, returned]

universe u
variable {θ : Type u}

/-- A thread's call at once. -/
def handleCall (mirrorBuffer : Memory) (entered : θ × MirrorCall) : Memory × (θ × Answer) :=
  let (next, answer) := handle mirrorBuffer entered.2
  (next, (entered.1, answer))

/-- The mirror after the copies of these calls, each at once. -/
def copied (mirrorBuffer : Memory) (entered : List (θ × MirrorCall)) : Memory :=
  after handleCall mirrorBuffer entered

/-- A backup that is answered with success has the whole mirror of one moment in its file:
the one that the calls before it leave. -/
theorem dumped_moment (mirrorBuffer : Memory) (entered : List (θ × MirrorCall)) (thread : θ)
    (run : BackupRun) (answered : (thread, .dumped run) ∈ replies handleCall mirrorBuffer entered)
    (success : run.ret = 0) :
    ∃ earlier, earlier <+: entered ∧
      run.file = some (load (copied mirrorBuffer earlier) 0 mirrorTotalSize) := by
  induction entered generalizing mirrorBuffer with
  | nil => simp [replies] at answered
  | cons call later inductionHypothesis =>
    rcases List.mem_cons.mp answered with here | afterwards
    · refine ⟨[], List.nil_prefix, ?_⟩
      obtain ⟨caller, sector | ⟨path, named, kernelWrite⟩⟩ := call
      · simp [handleCall, handle] at here
      · obtain ⟨_, same⟩ := Prod.mk.inj here
        obtain rfl := Answer.dumped.inj same
        rw [backup_run_reached mirrorBuffer path kernelWrite named] at success ⊢
        have outcome := (write_loop_outcome kernelWrite mirrorBuffer 0 (Nat.zero_le _)).2
        rw [load_zero] at outcome
        rcases returned_outcome mirrorBuffer _ outcome with ⟨_, file⟩ | ⟨failed, _⟩
        · exact congrArg some file
        · exact absurd success failed
    · obtain ⟨earlier, begins, file⟩ := inductionHypothesis _ afterwards
      exact ⟨call :: earlier, List.cons_prefix_cons.mpr ⟨rfl, begins⟩, file⟩

/-- For every interleaving of the accesses of any threads: the calls are answered, and the
running one will be, as copies and backups at once in the order in which they take the mutex;
whenever the mutex is free, the mirror is the one that these leave; a backup that has
returned 0 has in its file the whole mirror as it was between two of the copies; and every
call can still return. -/
theorem interleaved_mirror_is_serial [DecidableEq θ] (mirrorBuffer : Memory)
    (actions : List (Action MirrorCall θ)) :
    let final := after (LockedSections.step code) (fresh mirrorBuffer) actions
    let entered := entries code mirrorBuffer actions
    answers code mirrorBuffer actions ++ (settled code final).2 =
        replies handleCall mirrorBuffer entered ∧
      (final.holder = none → final.shared = copied mirrorBuffer entered) ∧
      (∀ thread run, (thread, .dumped run) ∈ answers code mirrorBuffer actions → run.ret = 0 →
        ∃ earlier, earlier <+: entered ∧
          run.file = some (load (copied mirrorBuffer earlier) 0 mirrorTotalSize)) ∧
      ∀ thread, ∃ more, (after (LockedSections.step code) final more).stage thread = .idle := by
  intro final entered
  have alike : ∀ (state other : Memory) (entered : θ × MirrorCall), state = other →
      (serialStep code state entered).2 = (handleCall other entered).2 ∧
        (serialStep code state entered).1 = (handleCall other entered).1 := by
    rintro state _ entered rfl
    simp only [serialStep, whole_handles, handleCall, and_self]
  obtain ⟨answered, settles⟩ := run_refines code handleCall _ alike mirrorBuffer mirrorBuffer rfl
    actions
  refine ⟨answered, fun free => (settles free).2, fun thread run given success => ?_,
    can_return code final (run_exclusive code _ actions)⟩
  refine dumped_moment mirrorBuffer entered thread run ?_ success
  rw [← answered]
  exact List.mem_append_left _ given

end LddExamples.MirrorSections
