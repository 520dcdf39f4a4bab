import LddExamples.KernelInterface

/-!
# The mirror module of the storage device

`003_char_block_storage_device/storage_mirror_kernel.c`: a second buffer, to
which one sector at a time is copied, and which is dumped to a file. A call of
`kernel_write` may be short, may write nothing and may fail; its result is never
more than what was requested. The loop calls it at most once for each position,
so a function of the position is every sequence of results.

The semaphore is initialised and never used by the source, and is left out.
-/

namespace LddExamples.StorageMirror

open ByteWindows KernelInterface

/-- The bytes of the mirror. -/
def mirrorTotalSize : Nat := 4096

/-- The bytes of a sector. -/
def mirrorSectorSize : Nat := 512

/-- The number of sectors, a C int, since it is compared with sector numbers. -/
def mirrorNumSectors : Int := 8

/-- Copy one sector into the mirror. Nothing is reported: an invalid sector and
an interrupted wait for the mutex return like a completed copy. -/
def mirrorSector (mirrorBuffer : Memory) (sector : Int) (data : List UInt8) (interrupted : Bool) :
    Memory :=
  if sector < 0 ∨ mirrorNumSectors ≤ sector then mirrorBuffer
  else if interrupted then mirrorBuffer
  else store mirrorBuffer (sector.toNat * mirrorSectorSize) data

/-- The results of `kernel_write` at each position and requested count. -/
structure KernelWrite where
  result : (pos count : Nat) → Int
  bounded : ∀ pos count, result pos count ≤ count

/-- A file that takes every write whole. -/
def KernelWrite.whole : KernelWrite := ⟨fun _ count => count, fun _ _ => Int.le_refl _⟩

/-- The loop's error, the sum of its positive results, and the file. -/
structure BackupLoop where
  ret : Int
  written : Int
  file : List UInt8

/-- The write loop from a position on. A positive result stores that many
bytes at the position and advances it. -/
def backupLoop (kernelWrite : KernelWrite) (mirrorBuffer : Memory) (pos : Nat) (written : Int)
    (file : List UInt8) : BackupLoop :=
  if _ : pos < mirrorTotalSize then
    let toWrite := min mirrorTotalSize (mirrorTotalSize - pos)
    let rc := kernelWrite.result pos toWrite
    if _ : rc < 0 then ⟨rc, written, file⟩
    else if _ : rc = 0 then ⟨-eio, written, file⟩
    else
      have advance : 0 < rc.toNat := by omega
      have shorter : mirrorTotalSize - (pos + rc.toNat) < mirrorTotalSize - pos := by omega
      backupLoop kernelWrite mirrorBuffer (pos + rc.toNat) (written + rc)
        (writeAt file pos (load mirrorBuffer pos rc.toNat))
  else ⟨0, written, file⟩
termination_by mirrorTotalSize - pos
decreasing_by exact shorter

/-- What a backup call leaves: its return value and the file, if one was opened. -/
structure Backup where
  ret : Int
  file : Option (List UInt8)

/-- Dump the mirror to a file, which opening truncates. -/
def vblockBackupToFile (mirrorBuffer : Memory) (path : List UInt8) (openError : Option Errno)
    (interrupted : Bool) (kernelWrite : KernelWrite) : Backup :=
  if path.headD 0 = 0 then ⟨-einval, none⟩
  else
    match openError with
    | some error => ⟨error.ret, none⟩
    | none =>
      if interrupted then ⟨-erestartsys, some []⟩
      else
        let loop := backupLoop kernelWrite mirrorBuffer 0 0 []
        ⟨if loop.ret ≠ 0 then loop.ret else if loop.written = mirrorTotalSize then 0 else -eio,
          some loop.file⟩

/-- Loading the module clears the mirror. -/
def mirrorInit (mirrorBuffer : Memory) : Memory := fill mirrorBuffer 0 mirrorTotalSize 0

/-- What a sector of a buffer holds. -/
def sectorBytes (memory : Memory) (sector : Nat) : List UInt8 :=
  load memory (sector * mirrorSectorSize) mirrorSectorSize

/-- An uninterrupted copy of a whole sector replaces that sector of the mirror. -/
theorem mirror_sector_same (mirrorBuffer : Memory) (sector : Nat) (inside : sector < 8)
    (data : List UInt8) (whole : data.length = mirrorSectorSize) :
    sectorBytes (mirrorSector mirrorBuffer sector data false) sector = data := by
  have accepted : ¬ ((sector : Int) < 0 ∨ mirrorNumSectors ≤ sector) := by
    simp only [mirrorNumSectors]
    omega
  simp only [mirrorSector, if_neg accepted, Bool.false_eq_true, if_false, sectorBytes,
    Int.toNat_natCast, ← whole]
  exact load_store_same mirrorBuffer _ data

/-- No copy of one sector touches another, nor any byte past the mirror. -/
theorem mirror_sector_other (mirrorBuffer : Memory) (sector : Int) (data : List UInt8)
    (whole : data.length = mirrorSectorSize) (interrupted : Bool) (index : Nat)
    (apart : (index / mirrorSectorSize : Nat) ≠ sector) :
    mirrorSector mirrorBuffer sector data interrupted index = mirrorBuffer index := by
  simp only [mirrorSector]
  split
  · rfl
  · split
    · rfl
    · apply store_outside
      rw [whole]
      simp only [mirrorSectorSize] at apart ⊢
      omega

/-- The loop writes a prefix of the mirror, and reports no error exactly when
the prefix is the whole mirror.

Proof: by induction on the loop. While it runs, the file is the prefix up to the
position and the sum of the results is the position; a positive result is at
most the remainder and extends the prefix by that many bytes. -/
theorem backup_loop_prefix (kernelWrite : KernelWrite) (mirrorBuffer : Memory) (pos : Nat)
    (inside : pos ≤ mirrorTotalSize) :
    ∃ reached ≤ mirrorTotalSize,
      (backupLoop kernelWrite mirrorBuffer pos pos (load mirrorBuffer 0 pos)).file =
        load mirrorBuffer 0 reached ∧
      (backupLoop kernelWrite mirrorBuffer pos pos (load mirrorBuffer 0 pos)).written = reached ∧
      ((backupLoop kernelWrite mirrorBuffer pos pos (load mirrorBuffer 0 pos)).ret = 0 ↔
        reached = mirrorTotalSize) := by
  induction remaining : mirrorTotalSize - pos using Nat.strongRecOn generalizing pos with
  | ind remaining inductionHypothesis =>
    rw [backupLoop]
    by_cases unfinished : pos < mirrorTotalSize
    · have request : min mirrorTotalSize (mirrorTotalSize - pos) = mirrorTotalSize - pos := by omega
      have bounded := kernelWrite.bounded pos (mirrorTotalSize - pos)
      simp only [dif_pos unfinished, request]
      generalize kernelWrite.result pos (mirrorTotalSize - pos) = rc at bounded ⊢
      by_cases failed : rc < 0
      · simp only [dif_pos failed]
        exact ⟨pos, inside, rfl, rfl, by omega⟩
      · by_cases stalled : rc = 0
        · simp only [dif_neg failed, dif_pos stalled]
          exact ⟨pos, inside, rfl, rfl, by simp only [eio]; omega⟩
        · simp only [dif_neg failed, dif_neg stalled, writeAt_load]
          have advance : (pos : Int) + rc = ((pos + rc.toNat : Nat) : Int) := by omega
          rw [advance]
          exact inductionHypothesis (mirrorTotalSize - (pos + rc.toNat)) (by omega)
            (pos + rc.toNat) (by omega) rfl
    · simp only [dif_neg unfinished]
      exact ⟨pos, inside, rfl, rfl, fun _ => by omega, fun _ => trivial⟩

/-- A backup that returns 0 has written the whole mirror. -/
theorem backup_success (mirrorBuffer : Memory) (path : List UInt8) (openError : Option Errno)
    (interrupted : Bool) (kernelWrite : KernelWrite)
    (success : (vblockBackupToFile mirrorBuffer path openError interrupted kernelWrite).ret = 0) :
    (vblockBackupToFile mirrorBuffer path openError interrupted kernelWrite).file =
      some (load mirrorBuffer 0 mirrorTotalSize) := by
  obtain ⟨reached, _, file, written, finished⟩ :=
    backup_loop_prefix kernelWrite mirrorBuffer 0 (Nat.zero_le _)
  rw [load_zero] at file written finished
  by_cases unnamed : path.headD 0 = 0
  · simp only [vblockBackupToFile, if_pos unnamed] at success
    exact absurd success (by decide)
  · cases openError with
    | some error =>
      simp only [vblockBackupToFile, if_neg unnamed] at success
      exact absurd success (Int.ne_of_lt error.ret_neg)
    | none =>
      cases interrupted with
      | true =>
        simp only [vblockBackupToFile, if_neg unnamed, if_true] at success
        exact absurd success (by decide)
      | false =>
        simp only [Int.natCast_zero] at file finished
        simp only [vblockBackupToFile, if_neg unnamed, Bool.false_eq_true, if_false] at success ⊢
        by_cases noError : (backupLoop kernelWrite mirrorBuffer 0 0 []).ret = 0
        · rw [file, finished.mp noError]
        · rw [if_pos noError] at success
          exact absurd success noError

/-- With a file that takes every write whole, an uninterrupted backup succeeds. -/
theorem backup_whole (mirrorBuffer : Memory) (path : List UInt8) (named : path.headD 0 ≠ 0) :
    vblockBackupToFile mirrorBuffer path none false .whole =
      ⟨0, some (load mirrorBuffer 0 mirrorTotalSize)⟩ := by
  have finished : backupLoop .whole mirrorBuffer mirrorTotalSize mirrorTotalSize
      (load mirrorBuffer 0 mirrorTotalSize) =
        ⟨0, mirrorTotalSize, load mirrorBuffer 0 mirrorTotalSize⟩ := by
    rw [backupLoop, dif_neg (Nat.lt_irrefl _)]
  have loop : backupLoop .whole mirrorBuffer 0 0 [] =
      ⟨0, mirrorTotalSize, load mirrorBuffer 0 mirrorTotalSize⟩ := by
    have written := writeAt_load mirrorBuffer 0 mirrorTotalSize
    rw [load_zero, Nat.zero_add] at written
    have request : min mirrorTotalSize (mirrorTotalSize - 0) = mirrorTotalSize := by omega
    rw [backupLoop, dif_pos (by decide)]
    simp only [request, KernelWrite.whole]
    rw [dif_neg (by decide), dif_neg (by decide)]
    simp only [Int.toNat_natCast, Nat.zero_add, Int.zero_add, written]
    exact finished
  simp only [vblockBackupToFile, if_neg named, loop]
  simp

end LddExamples.StorageMirror
