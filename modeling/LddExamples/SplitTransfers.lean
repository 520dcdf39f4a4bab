import LddExamples.ChunkedTransfers
import LddExamples.LockScan
import LddExamples.StorageRuns
import LddExamples.MultiMinorDevice
import LddExamples.CharacterSkeleton

/-!
# Split transfers of the flat devices

The sector storage device, the multi-minor driver and the driver skeleton keep their bytes
in one buffer of fixed size, and an open file is a position in it. They differ in what
they record of the content: nothing, the furthest end of a write, and the end of the last
one. In all three a write that is continued where it has ended is one write, and reads go
on until nothing remains. A caller passes whole chunks, with a complete copy of each.
-/

namespace LddExamples.SplitTransfers

open Runs ByteWindows KernelInterface ChunkedTransfers

section Storage

open StorageDevice StorageRuns LockScan

/-- An open file of the storage device. Nothing is recorded of its content. -/
def storageHandle (file : Nat) : Handle System Unit where
  file system := ⟨system.storage.storageBuffer, (), system.positions file⟩
  put system flat :=
    ⟨{ system.storage with storageBuffer := flat.memory },
      Function.update system.positions file flat.position⟩
  file_put _ _ := by simp only [Function.update_self]
  put_file _ := by simp only [Function.update_eq_self]
  put_put _ _ _ := by simp only [Function.update_idem]

/-- A write of so many bytes at the position of the file touches no locked sector. -/
def StorageReady (file : Nat) (system : System) (count : Nat) : Prop :=
  count ≤ maxRwCount ∧ ¬ TouchesLock system.storage count (system.positions file)

/-- A whole chunk is written to the file. -/
def storageChunk (file : Nat) (bytes : List UInt8) : Call :=
  .write file .current bytes.length (.ofBytes bytes) false

/-- A write of a whole chunk that touches no locked sector stores what fits of it. -/
theorem storage_write_chunk (storage : Storage) (bytes : List UInt8) (offset : Nat)
    (inside : offset < storageTotalSize) (admitted : bytes.length ≤ maxRwCount)
    (nonempty : bytes ≠ []) (untouched : ¬ TouchesLock storage bytes.length offset) :
    storageWrite 64 storage (.ofBytes bytes) bytes.length offset false =
      ⟨{ storage with
          storageBuffer := store storage.storageBuffer offset
            (bytes.take (storageTotalSize - offset)) },
        (bytes.take (storageTotalSize - offset)).length,
        offset + (bytes.take (storageTotalSize - offset)).length⟩ := by
  have accepted := accepted_of_untouched storage bytes.length offset inside admitted
    (List.length_pos_iff.mpr nonempty) untouched
  have clamped : clampedLength 64 offset bytes.length =
      (bytes.take (storageTotalSize - offset)).length := by
    rw [clamped_length_64 offset bytes.length inside admitted, List.length_take, Nat.min_comm]
  rw [storage_write_accepted 64 storage _ _ offset false accepted, clamped]
  obtain ⟨complete, landed⟩ := chunk_landed bytes (storageTotalSize - offset)
  rw [complete, landed, if_pos rfl, if_pos rfl]

/-- A chunk that touches no locked sector is a write to the flat file. -/
theorem storage_chunk_write (file : Nat) (system : System) (bytes : List UInt8)
    (nonempty : bytes ≠ []) (ready : StorageReady file system bytes.length) :
    (step system (storageChunk file bytes)).1 =
      (storageHandle file).write storageTotalSize (fun _ _ => ()) system bytes := by
  obtain ⟨admitted, untouched⟩ := ready
  by_cases full : storageTotalSize ≤ system.positions file
  · have refused : storageWrite 64 system.storage (.ofBytes bytes) (min bytes.length maxRwCount)
        (system.positions file) false = ⟨system.storage, -enospc, system.positions file⟩ :=
      if_pos full
    rw [handle_write_full (storageHandle file) _ _ system bytes full]
    simp only [storageChunk, step, Place.offset, Place.commit, refused, Function.update_eq_self]
  · have inside := Nat.lt_of_not_le full
    have stored := storage_write_chunk system.storage bytes (system.positions file) inside admitted
      nonempty untouched
    have written := write_inside storageTotalSize (fun _ _ => ()) ((storageHandle file).file system)
      bytes inside
    rw [Handle.write, written]
    simp only [storageChunk, step, Place.offset, Place.commit, Nat.min_eq_left admitted, stored]
    rfl

/-- After a chunk, the file is ready for what remains of the bytes that it was ready for. -/
theorem storage_chunk_ready (file : Nat) (system : System) (bytes : List UInt8) (more : Nat)
    (ready : StorageReady file system (bytes.length + more)) :
    StorageReady file
      ((storageHandle file).write storageTotalSize (fun _ _ => ()) system bytes) more := by
  obtain ⟨admitted, untouched⟩ := ready
  refine ⟨by omega, ?_⟩
  rintro ⟨index, lower, upper, locked⟩
  have moved : ((storageHandle file).write storageTotalSize (fun _ _ => ()) system bytes).positions
      file = system.positions file +
        min bytes.length (storageTotalSize - system.positions file) :=
    (Function.update_self file _ _).trans (write_position _ _ _ _)
  rw [moved] at lower upper
  exact untouched ⟨index, by omega, by omega, locked⟩

/-- Chunks on unlocked sectors join. -/
theorem storage_writes_join (file : Nat) :
    WritesJoin step (storageChunk file) (StorageReady file) := by
  apply writes_join step (storageChunk file) (storageHandle file) storageTotalSize (fun _ _ => ())
  · exact fun _ _ _ _ => rfl
  · rintro system count more ⟨admitted, untouched⟩
    refine ⟨by omega, ?_⟩
    rintro ⟨index, lower, upper, locked⟩
    exact untouched ⟨index, lower, by omega, locked⟩
  · exact fun system bytes => storage_chunk_write file system bytes
  · exact fun system bytes more _ ready => storage_chunk_ready file system bytes more ready

/-- So many bytes are read from the file, with room for them. -/
def storageRequest (file length : Nat) : Call := .read file .current length length false

/-- All of the buffer is content. -/
def storageContent (file : Nat) (system : System) : Flat Nat :=
  ⟨system.storage.storageBuffer, storageTotalSize, system.positions file⟩

/-- The reads of an open file join. -/
theorem storage_reads_join (file : Nat) :
    ReadsJoin step (storageRequest file) (fun _ => True)
      (fun system => (storageContent file system).remaining) := by
  apply window_reads_join step (storageRequest file) (fun _ => True) (storageContent file)
    (fun system position => ⟨system.storage, Function.update system.positions file position⟩)
  · exact fun system position => by simp only [storageContent, Function.update_self]
  · exact fun _ _ _ _ => trivial
  · intro system length _
    simp only [storageRequest, step, Place.offset, Place.commit, storageContent,
      storage_read_window system.storage _ length _ (Nat.min_le_right _ _)]

end Storage

section MultiMinor

open MultiMinorDevice

/-- An open file of a device of the multi-minor driver. -/
def mydevHandle (file : Nat) (minor : Minor) : Handle System Nat where
  file system :=
    ⟨(system.devices minor).buf, (system.devices minor).len, system.positions file⟩
  put system flat :=
    { system with
      devices := Function.update system.devices minor ⟨flat.memory, flat.length⟩
      positions := Function.update system.positions file flat.position }
  file_put _ _ := by simp only [Function.update_self]
  put_file _ := by simp only [Function.update_eq_self]
  put_put _ _ _ := by simp only [Function.update_idem]

/-- The file is open on the device, whose content fits its buffer, as in every reachable
state. -/
def MydevOpen (file : Nat) (minor : Minor) (system : System) : Prop :=
  system.privateData file = some minor ∧ (system.devices minor).len ≤ bufSize

/-- A whole chunk is written to the file. -/
def mydevChunk (file : Nat) (bytes : List UInt8) : Call :=
  .write file .current bytes.length (.ofBytes bytes) false

/-- A write of a whole chunk stores what fits of it, and the content then reaches at least
to its end. -/
theorem mydev_write_chunk (word : Word) (devices : Devices) (minor : Minor) (bytes : List UInt8)
    (ppos : Nat) (bounded : (devices minor).len ≤ bufSize) (inside : ppos < bufSize) :
    mydevWrite word devices (some minor) (.ofBytes bytes) bytes.length ppos false =
      ⟨Function.update devices minor
          ⟨store (devices minor).buf ppos (bytes.take (bufSize - ppos)),
            max (devices minor).len (ppos + (bytes.take (bufSize - ppos)).length)⟩,
        (bytes.take (bufSize - ppos)).length,
        ppos + (bytes.take (bufSize - ppos)).length⟩ := by
  have clamped : min bytes.length (bufSize - ppos) = (bytes.take (bufSize - ppos)).length := by
    rw [List.length_take, Nat.min_comm]
  obtain ⟨complete, landed⟩ := chunk_landed bytes (bufSize - ppos)
  rw [mydev_write_accepted word devices (some minor) (.ofBytes bytes) bytes.length ppos false minor
    bounded ⟨rfl, rfl, inside⟩, clamped, complete, landed, if_neg (by simp)]

/-- A chunk is a write to the flat file. -/
theorem mydev_chunk_write (word : Word) (file : Nat) (minor : Minor) (system : System)
    (bytes : List UInt8) (ready : MydevOpen file minor system)
    (admitted : bytes.length ≤ maxRwCount) :
    (step word system (mydevChunk file bytes)).1 =
      (mydevHandle file minor).write bufSize max system bytes := by
  obtain ⟨opened, bounded⟩ := ready
  by_cases full : bufSize ≤ system.positions file
  · obtain ⟨ret, refused, _⟩ := mydev_write_refused word system.devices (some minor)
      (.ofBytes bytes) bytes.length (system.positions file) false
      (fun other accepted => absurd accepted.2.2 (Nat.not_lt_of_le full))
    rw [handle_write_full (mydevHandle file minor) bufSize max system bytes full]
    simp only [mydevChunk, step, Place.offset, Place.commit, opened, Nat.min_eq_left admitted,
      refused, Function.update_eq_self]
    split <;> rfl
  · have inside := Nat.lt_of_not_le full
    have place : ¬ loffLimit ≤ system.positions file := by
      simp only [bufSize, loffLimit] at inside ⊢
      omega
    have stored := mydev_write_chunk word system.devices minor bytes (system.positions file)
      bounded inside
    have written := write_inside bufSize max ((mydevHandle file minor).file system) bytes inside
    rw [Handle.write, written]
    simp only [mydevChunk, step, Place.offset, Place.commit, opened, Nat.min_eq_left admitted,
      if_neg place, stored]
    rfl

/-- The chunks of an open file join. -/
theorem mydev_writes_join (word : Word) (file : Nat) (minor : Minor) :
    WritesJoin (step word) (mydevChunk file)
      (fun system count => MydevOpen file minor system ∧ count ≤ maxRwCount) := by
  apply writes_join (step word) (mydevChunk file) (mydevHandle file minor) bufSize max
  · exact fun length reached further later => by rw [max_assoc, max_eq_right later]
  · exact fun system count more ready => ⟨ready.1, by omega⟩
  · exact fun system bytes _ ready =>
      mydev_chunk_write word file minor system bytes ready.1 ready.2
  · rintro system bytes more _ ⟨⟨opened, bounded⟩, admitted⟩
    have length : (((mydevHandle file minor).write bufSize max system bytes).devices minor).len =
        (((mydevHandle file minor).file system).write bufSize max bytes).length :=
      congrArg Flat.length ((mydevHandle file minor).file_put system _)
    refine ⟨⟨opened, ?_⟩, by omega⟩
    rw [length]
    exact write_max_length_le bufSize _ bytes bounded

/-- So many bytes are read from the file, with room for them. -/
def mydevRequest (file length : Nat) : Call := .read file .current length length false

/-- The reads of an open file join. -/
theorem mydev_reads_join (word : Word) (file : Nat) (minor : Minor) :
    ReadsJoin (step word) (mydevRequest file)
      (fun system => MydevOpen file minor system ∧ system.positions file < loffLimit)
      (fun system => ((mydevHandle file minor).file system).remaining) := by
  apply window_reads_join (step word) (mydevRequest file) _ (mydevHandle file minor).file
    (fun system position =>
      { system with positions := Function.update system.positions file position })
  · exact fun system position => by simp only [mydevHandle, Function.update_self]
  · rintro system position ⟨⟨opened, bounded⟩, place⟩ reached
    refine ⟨⟨opened, bounded⟩, ?_⟩
    simp only [mydevHandle, bufSize, loffLimit, Function.update_self] at reached bounded place ⊢
    omega
  · rintro system length ⟨⟨opened, bounded⟩, place⟩
    simp only [mydevRequest, step, Place.offset, Place.commit, opened,
      if_neg (Nat.not_le_of_lt place), mydevHandle,
      mydev_read_window word system.devices minor _ length _ bounded place]

end MultiMinor

section Skeleton

open CharacterSkeleton

/-- An open file of the driver skeleton. -/
def skeletonHandle (file : Nat) : Handle System Nat where
  file system := ⟨system.skeleton.buffer, system.skeleton.bufferSize, system.positions file⟩
  put system flat :=
    ⟨⟨flat.memory, flat.length⟩, Function.update system.positions file flat.position⟩
  file_put _ _ := by simp only [Function.update_self]
  put_file _ := by simp only [Function.update_eq_self]
  put_put _ _ _ := by simp only [Function.update_idem]

/-- A whole chunk is written to the file. -/
def skeletonChunk (file : Nat) (bytes : List UInt8) : Call :=
  .write file .current bytes.length (.ofBytes bytes)

/-- A write of a whole chunk stores what fits of it, and the content then ends with it. -/
theorem my_write_chunk (skeleton : Skeleton) (bytes : List UInt8) (pos : Nat)
    (inside : pos < bufSize) :
    myWrite skeleton (.ofBytes bytes) bytes.length pos =
      ⟨⟨store skeleton.buffer pos (bytes.take (bufSize - pos)),
          pos + (bytes.take (bufSize - pos)).length⟩,
        (bytes.take (bufSize - pos)).length, pos + (bytes.take (bufSize - pos)).length⟩ := by
  have clamped : min bytes.length (bufSize - pos) = (bytes.take (bufSize - pos)).length := by
    rw [List.length_take, Nat.min_comm]
  obtain ⟨complete, landed⟩ := chunk_landed bytes (bufSize - pos)
  rw [my_write_inside skeleton (.ofBytes bytes) bytes.length pos inside, clamped, complete, landed,
    if_neg (by simp)]

/-- A chunk is a write to the flat file. -/
theorem skeleton_chunk_write (file : Nat) (system : System) (bytes : List UInt8)
    (admitted : bytes.length ≤ maxRwCount) :
    (step system (skeletonChunk file bytes)).1 =
      (skeletonHandle file).write bufSize (fun _ reached => reached) system bytes := by
  by_cases full : bufSize ≤ system.positions file
  · rw [handle_write_full (skeletonHandle file) bufSize _ system bytes full]
    simp only [skeletonChunk, step, Place.offset, Place.commit, Nat.min_eq_left admitted,
      my_write_past _ _ _ _ full, Function.update_eq_self]
    split <;> rfl
  · have inside := Nat.lt_of_not_le full
    have place : ¬ loffLimit ≤ system.positions file := by
      simp only [bufSize, loffLimit] at inside ⊢
      omega
    have stored := my_write_chunk system.skeleton bytes (system.positions file) inside
    have written := write_inside bufSize (fun _ reached => reached)
      ((skeletonHandle file).file system) bytes inside
    rw [Handle.write, written]
    simp only [skeletonChunk, step, Place.offset, Place.commit, Nat.min_eq_left admitted,
      if_neg place, stored]
    rfl

/-- The chunks of an open file join. -/
theorem skeleton_writes_join (file : Nat) :
    WritesJoin step (skeletonChunk file) (fun _ count => count ≤ maxRwCount) := by
  apply writes_join step (skeletonChunk file) (skeletonHandle file) bufSize
    (fun _ reached => reached)
  · exact fun _ _ _ _ => rfl
  · exact fun _ count more admitted => by omega
  · exact fun system bytes _ admitted => skeleton_chunk_write file system bytes admitted
  · exact fun _ bytes more _ admitted => by omega

/-- So many bytes are read from the file, with room for them. -/
def skeletonRequest (file len : Nat) : Call := .read file .current len len

/-- The file is at a position that a caller can pass, and the content fits the buffer, as in
every reachable state. -/
def SkeletonPlaced (file : Nat) (system : System) : Prop :=
  system.positions file < loffLimit ∧ system.skeleton.bufferSize ≤ bufSize

/-- The reads of an open file join. -/
theorem skeleton_reads_join (file : Nat) :
    ReadsJoin step (skeletonRequest file) (SkeletonPlaced file)
      (fun system => ((skeletonHandle file).file system).remaining) := by
  apply window_reads_join step (skeletonRequest file) _ (skeletonHandle file).file
    (fun system position => ⟨system.skeleton, Function.update system.positions file position⟩)
  · exact fun system position => by simp only [skeletonHandle, Function.update_self]
  · rintro system position ⟨place, bounded⟩ reached
    refine ⟨?_, bounded⟩
    simp only [skeletonHandle, bufSize, loffLimit, Function.update_self] at reached bounded place ⊢
    omega
  · rintro system len ⟨place, bounded⟩
    simp only [skeletonRequest, step, Place.offset, Place.commit,
      if_neg (Nat.not_le_of_lt place), skeletonHandle, my_read_window]

end Skeleton

/-- In the sector storage device, the multi-minor driver and the driver skeleton, chunks that
are written one after the other leave the same state as one write of all of them, from every
state in which the storage device has no lock on what is written; and reads of any lengths
deliver all that remains of the content. -/
theorem splits_do_not_matter (word : Word) (file : Nat) (minor : MultiMinorDevice.Minor) :
    (WritesJoin StorageRuns.step (storageChunk file) (StorageReady file) ∧
        ReadsJoin StorageRuns.step (storageRequest file) (fun _ => True)
          (fun system => (storageContent file system).remaining)) ∧
      (WritesJoin (MultiMinorDevice.step word) (mydevChunk file)
          (fun system count => MydevOpen file minor system ∧ count ≤ maxRwCount) ∧
        ReadsJoin (MultiMinorDevice.step word) (mydevRequest file)
          (fun system => MydevOpen file minor system ∧ system.positions file < loffLimit)
          (fun system => ((mydevHandle file minor).file system).remaining)) ∧
      (WritesJoin CharacterSkeleton.step (skeletonChunk file) (fun _ count => count ≤ maxRwCount) ∧
        ReadsJoin CharacterSkeleton.step (skeletonRequest file) (SkeletonPlaced file)
          (fun system => ((skeletonHandle file).file system).remaining)) :=
  ⟨⟨storage_writes_join file, storage_reads_join file⟩,
    ⟨mydev_writes_join word file minor, mydev_reads_join word file minor⟩,
    skeleton_writes_join file, skeleton_reads_join file⟩

end LddExamples.SplitTransfers
