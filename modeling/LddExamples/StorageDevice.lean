import LddExamples.StorageMirror

/-!
# The handlers of the sector storage device

`003_char_block_storage_device/storage_kernel.c`, on a kernel whose `size_t` has
a given number of bits. The sum of an offset and a length is taken modulo 2^64
on both targets: as an unsigned number where `size_t` has 64 bits, and without
reaching the bound where it has 32. Sector numbers are C ints.

A handler is one critical section under `storage_mutex`; the reads of the offset
before it belong to the same call. The lock table is indexed by a C int, since
that is what the scan of a write indexes it with; only 0 to 7 belong to it.
Messages to the kernel log, the driver's file operations that only log, and the
registration of the device are left out.
-/

namespace LddExamples.StorageDevice

open ByteWindows KernelInterface StorageMirror

/-- `STORAGE_TOTAL_SIZE`, the bytes of the device. -/
def storageTotalSize : Nat := 4096

/-- `STORAGE_SECTOR_SIZE`, the bytes of a sector. -/
def storageSectorSize : Nat := 512

/-- `STORAGE_NUM_SECTORS`, a C int, since it is compared with sector numbers. -/
def storageNumSectors : Int := 8

/-- The driver's globals and the mirror it copies to. A key is a pointer that
may be null, or a string without its terminator; the list has `key_count`
entries. -/
structure Storage where
  storageBuffer : Memory
  sectorLockState : Int → Bool
  mirrorBuffer : Memory
  userKeys : List (Option (List UInt8))

/-- The requested length, cut so that the access ends with the buffer. -/
def clampedLength (sizeT offset length : Nat) : Nat :=
  if storageTotalSize < wrapUnsigned 64 (offset + length) then
    wrapUnsigned sizeT (storageTotalSize - offset)
  else length

/-- The indices at which a write's scan reads the lock table. The loop bounds are
quotients of `size_t` numbers converted to int. -/
def scannedSectors (sizeT offset length : Nat) : List Int :=
  let start := wrapUnsigned sizeT offset
  let stop := wrapUnsigned sizeT (start + length)
  let sectorStart := wrapSigned 32 (start / storageSectorSize : Nat)
  let sectorEnd := wrapSigned 32 (wrapUnsigned sizeT (stop - 1) / storageSectorSize : Nat)
  (List.range (sectorEnd - sectorStart + 1).toNat).map (fun index : Nat => sectorStart + index)

/-- A read from an offset returns what the buffer has there, as far as it was asked for.
Locks do not concern it. Behind the end it returns zero, before it waits for the mutex; a
copy that fails leaves the offset. -/
def storageRead (sizeT : Nat) (storage : Storage) (length room offset : Nat) (interrupted : Bool) :
    Served :=
  if storageTotalSize ≤ offset then ⟨0, offset, []⟩
  else
    let length := clampedLength sizeT offset length
    if interrupted then ⟨-erestartsys, offset, []⟩
    else
      let (data, missing) := copyToUser (load storage.storageBuffer offset length) room
      if missing ≠ 0 then ⟨-efault, offset, data⟩
      else ⟨length, offset + length, data⟩

/-- A write stores what the buffer has room for, unless a sector that its scan meets is
locked. Bytes that a failing copy has stored stay, and the offset is then left. The scan
covers the cut length, and for a length of zero whatever the wrapped end makes of it. -/
def storageWrite (sizeT : Nat) (storage : Storage) (source : UserSource) (length offset : Nat)
    (interrupted : Bool) : Stored Storage :=
  if storageTotalSize ≤ offset then ⟨storage, -enospc, offset⟩
  else
    let length := clampedLength sizeT offset length
    if interrupted then ⟨storage, -erestartsys, offset⟩
    else if (scannedSectors sizeT offset length).any storage.sectorLockState then
      ⟨storage, -eperm, offset⟩
    else
      let (buffer, missing) := copyFromUser storage.storageBuffer offset source length
      let storage := { storage with storageBuffer := buffer }
      if missing ≠ 0 then ⟨storage, -efault, offset⟩
      else ⟨storage, length, offset + length⟩

/-- What the kernel reads from an unlock request: a signed field of three bits
at the bottom of the first byte, and the second byte. -/
structure UnlockRequest where
  sector : Int
  key : UInt8

/-- The request as the compiler lays it out in its first two bytes; the other two are never
read. -/
def decodeUnlockRequest (bytes : List UInt8) : UnlockRequest :=
  ⟨wrapSigned 3 (bytes.headD 0).toNat, bytes.getD 1 0⟩

/-- The key loop: some entry is a string whose first byte, which for an empty
string is its terminator, is the key. -/
def keyAccepted (userKeys : List (Option (List UInt8))) (key : UInt8) : Bool :=
  userKeys.any fun entry =>
    match entry with
    | none => false
    | some text => text.headD 0 == key

/-- A command with what its argument address holds and what its environment
decides. Every number without a command is `unknown`. -/
inductive Ioctl where
  | lockSector (arg : UserSource)
  | unlockSector (arg : UserSource) (interrupted : Bool)
  | getLockInfo (room : Nat)
  | eraseSector (arg : UserSource)
  | mirrorSector (arg : UserSource) (interrupted : Bool)
  | backupToFile (arg : UserSource) (openError : Option Errno) (interrupted : Bool)
      (kernelWrite : KernelWrite)
  | unknown

/-- The common opening of the commands whose argument is a sector number: copy
the number, check its range, and go on with the command. -/
def withSector (storage : Storage) (arg : UserSource) (command : Int → Storage × Reply) :
    Storage × Reply :=
  match copyIntFromUser arg with
  | none => (storage, ⟨-efault, []⟩)
  | some sectorIndex =>
    if sectorIndex < 0 ∨ storageNumSectors ≤ sectorIndex then (storage, ⟨-einval, []⟩)
    else command sectorIndex

/-- `IOCTL_LOCK_SECTOR` sets the sector's lock, whether or not it is set already. It waits
for the mutex without listening to signals. -/
def lockSector (storage : Storage) (arg : UserSource) : Storage × Reply :=
  withSector storage arg fun sectorIndex =>
    ({ storage with
        sectorLockState := Function.update storage.sectorLockState sectorIndex true }, ⟨0, []⟩)

/-- `IOCTL_UNLOCK_SECTOR` clears the lock of the decoded sector if the key is one of the
keys. The range is checked first, then the key, and only then does it wait for the mutex. -/
def unlockSector (storage : Storage) (arg : UserSource) (interrupted : Bool) : Storage × Reply :=
  if arg.uncopied 4 ≠ 0 then (storage, ⟨-efault, []⟩)
  else
    let unlockReq := decodeUnlockRequest (arg.landed 4)
    if unlockReq.sector < 0 ∨ storageNumSectors ≤ unlockReq.sector then (storage, ⟨-einval, []⟩)
    else if keyAccepted storage.userKeys unlockReq.key = false then (storage, ⟨-eperm, []⟩)
    else if interrupted then (storage, ⟨-erestartsys, []⟩)
    else
      ({ storage with
          sectorLockState := Function.update storage.sectorLockState unlockReq.sector false },
        ⟨0, []⟩)

/-- `IOCTL_GET_LOCK_INFO` copies one byte for each sector to the user. The table is read
under the mutex and copied out after it. -/
def getLockInfo (storage : Storage) (room : Nat) : Reply :=
  let lockInfo := (List.range 8).map fun index : Nat =>
    if storage.sectorLockState index then (1 : UInt8) else 0
  let (data, missing) := copyToUser lockInfo room
  ⟨if missing ≠ 0 then -efault else 0, data⟩

/-- `IOCTL_ERASE_SECTOR` clears a sector that is not locked. The keys play no part in it. -/
def eraseSector (storage : Storage) (arg : UserSource) : Storage × Reply :=
  withSector storage arg fun sectorIndex =>
    if storage.sectorLockState sectorIndex then (storage, ⟨-eperm, []⟩)
    else
      ({ storage with
          storageBuffer := fill storage.storageBuffer (sectorIndex.toNat * storageSectorSize)
            storageSectorSize 0 }, ⟨0, []⟩)

/-- The sector is read without `storage_mutex`, and the mirror reports nothing. -/
def mirrorSectorCommand (storage : Storage) (arg : UserSource) (interrupted : Bool) :
    Storage × Reply :=
  withSector storage arg fun sectorIndex =>
    ({ storage with
        mirrorBuffer := mirrorSector storage.mirrorBuffer sectorIndex
          (load storage.storageBuffer (sectorIndex.toNat * storageSectorSize) storageSectorSize)
          interrupted }, ⟨0, []⟩)

/-- `IOCTL_BACKUP_TO_FILE` copies 256 bytes from the argument, whatever the length of the
path in them, and leaves the rest to the mirror module. The bytes of the reply are those of
the file that it has opened. -/
def backupToFile (storage : Storage) (arg : UserSource) (openError : Option Errno)
    (interrupted : Bool) (kernelWrite : KernelWrite) : Reply :=
  if arg.uncopied 256 ≠ 0 then ⟨-efault, []⟩
  else
    let backup := vblockBackupToFile storage.mirrorBuffer (arg.landed 256) openError interrupted
      kernelWrite
    ⟨backup.ret, backup.file.getD []⟩

/-- The commands by number. -/
def storageIoctl (storage : Storage) : Ioctl → Storage × Reply
  | .lockSector arg => lockSector storage arg
  | .unlockSector arg interrupted => unlockSector storage arg interrupted
  | .getLockInfo room => (storage, getLockInfo storage room)
  | .eraseSector arg => eraseSector storage arg
  | .mirrorSector arg interrupted => mirrorSectorCommand storage arg interrupted
  | .backupToFile arg openError interrupted kernelWrite =>
      (storage, backupToFile storage arg openError interrupted kernelWrite)
  | .unknown => (storage, ⟨-enotty, []⟩)

/-- The letters A to H, each a string of its own. -/
def defaultKeys : List (Option (List UInt8)) :=
  [0x41, 0x42, 0x43, 0x44, 0x45, 0x46, 0x47, 0x48].map fun letter => some [letter]

/-- Loading the driver over any memory, after the mirror: the configured keys or
the default ones, a cleared buffer and a cleared lock table. -/
def storageDriverInit (userKeys : List (Option (List UInt8))) (memory mirror : Memory)
    (locks : Int → Bool) : Storage where
  storageBuffer := fill memory 0 storageTotalSize 0
  sectorLockState := fun index =>
    if 0 ≤ index ∧ index < storageNumSectors then false else locks index
  mirrorBuffer := mirrorInit mirror
  userKeys := if userKeys.length = 0 then defaultKeys else userKeys

/-- A sector command fails and changes nothing, or goes on with the sector that
its argument names. -/
theorem with_sector_cases (storage : Storage) (arg : UserSource)
    (command : Int → Storage × Reply) :
    ((withSector storage arg command).1 = storage ∧ (withSector storage arg command).2.ret < 0) ∨
      ∃ sector : Nat, copyIntFromUser arg = some (sector : Int) ∧ sector < 8 ∧
        withSector storage arg command = command sector := by
  simp only [withSector]
  cases copied : copyIntFromUser arg with
  | none => exact Or.inl ⟨rfl, by simp⟩
  | some sector =>
    by_cases outside : sector < 0 ∨ storageNumSectors ≤ sector
    · exact Or.inl ⟨by simp only [if_pos outside], by simp [outside]⟩
    · have named : (sector.toNat : Int) = sector := Int.toNat_of_nonneg (by omega)
      have below : sector.toNat < 8 := by
        simp only [storageNumSectors] at outside
        omega
      exact Or.inr ⟨sector.toNat, congrArg some named.symm, below, by
        simp only [if_neg outside, named]⟩

/-- An erase request fails and changes nothing, or clears a sector that is not
locked. -/
theorem erase_sector_cases (storage : Storage) (arg : UserSource) :
    ((eraseSector storage arg).1 = storage ∧ (eraseSector storage arg).2.ret < 0) ∨
      ∃ sector : Nat, copyIntFromUser arg = some (sector : Int) ∧ sector < 8 ∧
        storage.sectorLockState sector = false ∧
        eraseSector storage arg =
          ({ storage with
              storageBuffer := fill storage.storageBuffer (sector * storageSectorSize)
                storageSectorSize 0 }, ⟨0, []⟩) := by
  simp only [eraseSector]
  rcases with_sector_cases storage arg _ with refused | ⟨sector, copied, inside, erases⟩
  · exact Or.inl refused
  · rw [erases, Int.toNat_natCast]
    by_cases locked : storage.sectorLockState sector
    · exact Or.inl ⟨by rw [if_pos locked], by simp [locked]⟩
    · exact Or.inr ⟨sector, copied, inside, Bool.eq_false_iff.mpr locked, if_neg locked⟩

/-- A mirror request fails and changes nothing, or hands one sector to the mirror
module and succeeds, whatever becomes of the sector there. -/
theorem mirror_command_cases (storage : Storage) (arg : UserSource) (interrupted : Bool) :
    ((mirrorSectorCommand storage arg interrupted).1 = storage ∧
        (mirrorSectorCommand storage arg interrupted).2.ret < 0) ∨
      ∃ sector : Nat, copyIntFromUser arg = some (sector : Int) ∧ sector < 8 ∧
        mirrorSectorCommand storage arg interrupted =
          ({ storage with
              mirrorBuffer := mirrorSector storage.mirrorBuffer sector
                (sectorBytes storage.storageBuffer sector) interrupted }, ⟨0, []⟩) := by
  simp only [mirrorSectorCommand]
  rcases with_sector_cases storage arg _ with refused | ⟨sector, copied, inside, mirrors⟩
  · exact Or.inl refused
  · exact Or.inr ⟨sector, copied, inside, by rw [mirrors, Int.toNat_natCast]; rfl⟩

/-- A length that the caller admits is cut to what remains of the buffer. -/
theorem clamped_length (word : Word) (offset length : Nat) (inside : offset < storageTotalSize)
    (admitted : length ≤ maxRwCount) :
    clampedLength word.bits offset length = min length (storageTotalSize - offset) := by
  have cut : wrapUnsigned word.bits ((storageTotalSize - offset : Nat) : Int) =
      storageTotalSize - offset := by
    cases word with
    | bits32 | bits64 =>
      simp only [storageTotalSize, wrapUnsigned, Word.bits]
      omega
  have sum : wrapUnsigned 64 ((offset : Int) + length) = offset + length := by
    simp only [storageTotalSize, maxRwCount, wrapUnsigned] at inside admitted ⊢
    omega
  have same : ((storageTotalSize : Int) - offset) = ((storageTotalSize - offset : Nat) : Int) := by
    omega
  simp only [clampedLength, sum, same, cut]
  split <;> omega

/-- On a 64-bit kernel, a length that the caller admits is cut to what remains
of the buffer. -/
theorem clamped_length_64 (offset length : Nat) (inside : offset < storageTotalSize)
    (admitted : length ≤ maxRwCount) :
    clampedLength 64 offset length = min length (storageTotalSize - offset) :=
  clamped_length .bits64 offset length inside admitted

/-- On both kernels, a scan goes from the sector of the first byte to that of the byte
before the end, unless there is no byte before the end. -/
theorem scanned_sectors_iff (word : Word) (offset length : Nat) (positive : 0 < offset + length)
    (inside : offset + length ≤ storageTotalSize) (sector : Int) :
    sector ∈ scannedSectors word.bits offset length ↔
      ((offset / 512 : Nat) : Int) ≤ sector ∧ sector ≤ ((offset + length - 1) / 512 : Nat) := by
  simp only [storageTotalSize] at inside
  have exact (number : Nat) (below : number ≤ 4096) :
      wrapUnsigned word.bits (number : Int) = number := by
    cases word with
    | bits32 | bits64 =>
      simp only [wrapUnsigned, Word.bits]
      omega
  have start := exact offset (by omega)
  have stop : wrapUnsigned word.bits ((offset : Int) + length) = offset + length :=
    exact (offset + length) inside
  have last : wrapUnsigned word.bits (((offset + length : Nat) : Int) - 1) =
      offset + length - 1 := by
    have same : ((offset + length : Nat) : Int) - 1 = ((offset + length - 1 : Nat) : Int) := by
      omega
    rw [same]
    exact exact (offset + length - 1) (by omega)
  have narrow (byte : Nat) (below : byte ≤ 4096) :
      wrapSigned 32 ((byte / 512 : Nat) : Int) = (byte / 512 : Nat) := by
    simp only [wrapSigned]
    rw [Int.bmod_def]
    omega
  have first := narrow offset (by omega)
  have final := narrow (offset + length - 1) (by omega)
  simp only [scannedSectors, storageSectorSize, start, stop, last, first, final, List.mem_map,
    List.mem_range]
  constructor
  · rintro ⟨index, below, rfl⟩
    omega
  · rintro ⟨lower, upper⟩
    exact ⟨(sector - (offset / 512 : Nat)).toNat, by omega, by omega⟩

/-- On a 64-bit kernel, a write that is not empty scans exactly the sectors from
that of its first byte to that of its last. -/
theorem scanned_sectors_64 (offset length : Nat) (nonempty : 0 < length)
    (inside : offset + length ≤ storageTotalSize) (sector : Int) :
    sector ∈ scannedSectors 64 offset length ↔
      ((offset / 512 : Nat) : Int) ≤ sector ∧ sector ≤ ((offset + length - 1) / 512 : Nat) :=
  scanned_sectors_iff .bits64 offset length (by omega) inside sector

/-- A write gets as far as its copy: it starts inside the buffer, no signal ends
its wait, and its scan finds no lock. -/
def WriteAccepted (sizeT : Nat) (storage : Storage) (length offset : Nat) (interrupted : Bool) :
    Prop :=
  offset < storageTotalSize ∧ interrupted = false ∧
    (scannedSectors sizeT offset (clampedLength sizeT offset length)).any storage.sectorLockState =
      false

/-- A write that is not accepted fails and changes nothing. -/
theorem storage_write_refused (sizeT : Nat) (storage : Storage) (source : UserSource)
    (length offset : Nat) (interrupted : Bool)
    (refused : ¬ WriteAccepted sizeT storage length offset interrupted) :
    (storageWrite sizeT storage source length offset interrupted).state = storage ∧
      (storageWrite sizeT storage source length offset interrupted).offset = offset ∧
      (storageWrite sizeT storage source length offset interrupted).ret < 0 := by
  simp only [storageWrite]
  by_cases past : storageTotalSize ≤ offset
  · simp [past]
  · by_cases signal : interrupted
    · simp [past, signal]
    · by_cases locked : (scannedSectors sizeT offset (clampedLength sizeT offset length)).any
          storage.sectorLockState
      · simp only [past, signal, locked, if_true, if_false]
        simp
      · exact absurd ⟨Nat.lt_of_not_le past, Bool.eq_false_iff.mpr signal,
          Bool.eq_false_iff.mpr locked⟩ refused

/-- An accepted write stores what its copy delivers, and succeeds exactly when
the copy is complete. -/
theorem storage_write_accepted (sizeT : Nat) (storage : Storage) (source : UserSource)
    (length offset : Nat) (interrupted : Bool)
    (accepted : WriteAccepted sizeT storage length offset interrupted) :
    storageWrite sizeT storage source length offset interrupted =
      ⟨{ storage with
          storageBuffer := store storage.storageBuffer offset
            (source.landed (clampedLength sizeT offset length)) },
        if source.uncopied (clampedLength sizeT offset length) = 0 then
          clampedLength sizeT offset length else -efault,
        if source.uncopied (clampedLength sizeT offset length) = 0 then
          offset + clampedLength sizeT offset length else offset⟩ := by
  obtain ⟨inside, noSignal, unlocked⟩ := accepted
  simp only [storageWrite]
  simp only [Nat.not_le_of_gt inside, noSignal, unlocked, Bool.false_eq_true, if_false,
    copyFromUser]
  by_cases complete : source.uncopied (clampedLength sizeT offset length) = 0
  · simp [complete]
  · simp [complete]

/-- No byte that an accepted write covers lies in a locked sector. -/
theorem accepted_unlocked (storage : Storage) (length offset : Nat) (interrupted : Bool)
    (admitted : length ≤ maxRwCount)
    (accepted : WriteAccepted 64 storage length offset interrupted) (index : Nat)
    (lower : offset ≤ index) (upper : index < offset + clampedLength 64 offset length) :
    storage.sectorLockState ((index / storageSectorSize : Nat) : Int) = false := by
  obtain ⟨inside, _, unlocked⟩ := accepted
  have clamped := clamped_length_64 offset length inside admitted
  have fits : offset + clampedLength 64 offset length ≤ storageTotalSize := by omega
  have scanned := (scanned_sectors_64 offset (clampedLength 64 offset length) (by omega) fits
    ((index / storageSectorSize : Nat) : Int)).mpr (by simp only [storageSectorSize]; omega)
  simp only [List.any_eq_false, Bool.not_eq_true] at unlocked
  exact unlocked _ scanned

/-- On a 64-bit kernel an uninterrupted read is a window read of the buffer. -/
theorem storage_read_window (storage : Storage) (length room offset : Nat)
    (admitted : length ≤ maxRwCount) :
    storageRead 64 storage length room offset false =
      windowRead storage.storageBuffer storageTotalSize offset length room := by
  simp only [storageRead, windowRead]
  by_cases past : storageTotalSize ≤ offset
  · simp only [if_pos past]
  · rw [clamped_length_64 offset length (Nat.lt_of_not_le past) admitted]
    rfl

/-- A read that succeeds returns the request as far as the buffer reaches, with
the bytes there. -/
theorem storage_read_success (storage : Storage) (length room offset : Nat) (interrupted : Bool)
    (admitted : length ≤ maxRwCount)
    (success : 0 ≤ (storageRead 64 storage length room offset interrupted).ret) :
    storageRead 64 storage length room offset interrupted =
      ⟨((min length (storageTotalSize - offset) : Nat) : Int),
        offset + min length (storageTotalSize - offset),
        load storage.storageBuffer offset (min length (storageTotalSize - offset))⟩ := by
  have window : storageRead 64 storage length room offset interrupted =
      windowRead storage.storageBuffer storageTotalSize offset length room := by
    cases interrupted with
    | false => exact storage_read_window storage length room offset admitted
    | true =>
      by_cases past : storageTotalSize ≤ offset
      · simp only [storageRead, windowRead, if_pos past]
      · simp [storageRead, past] at success
  rw [window] at success ⊢
  exact window_read_success _ _ _ _ _ success

end LddExamples.StorageDevice
