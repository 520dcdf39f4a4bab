import LddExamples.SplitTransfers

/-!
# The sector helpers of the storage program

`003_char_block_storage_device/storage_user.c`: a sector is written and read by one
positioned call at its offset, and the helper succeeds if the call transfers a whole sector.
Nothing checks the number of the sector. The driver refuses an offset behind its buffer, and
the kernel one that is negative; but the product that gives the offset is an int, and of the
number of the sector only the lowest 23 bits are left in it. Printing is left out.
-/

namespace LddExamples.SectorHelpers

open ByteWindows KernelInterface StorageDevice StorageRuns LockScan SplitTransfers

/-- `SECTOR_SIZE`, as an int. -/
def sectorSize : BitVec 32 := 512

/-- The offset of a sector, a product of ints that becomes an `off_t`. -/
def sectorOffset (sector : BitVec 32) : Int := (sector * sectorSize).toInt

/-- A positioned write. The kernel refuses a negative offset. -/
def pwrite (system : System) (fd : Nat) (buf : List UInt8) (offset : Int) (interrupted : Bool) :
    System × Int :=
  if offset < 0 then (system, -einval)
  else
    let (system, reply) :=
      step system (.write fd (.fixed offset.toNat) sectorSize.toNat (.ofBytes buf) interrupted)
    (system, reply.ret)

/-- A positioned read, and the bytes that it stores. -/
def pread (system : System) (fd : Nat) (offset : Int) (interrupted : Bool) : Int × List UInt8 :=
  if offset < 0 then (-einval, [])
  else
    let reply := (step system (.read fd (.fixed offset.toNat) sectorSize.toNat sectorSize.toNat
      interrupted)).2
    (reply.ret, reply.data)

def writeSector (system : System) (fd : Nat) (sector : BitVec 32) (buf : List UInt8)
    (interrupted : Bool) : System × Int :=
  let (system, ret) := pwrite system fd buf (sectorOffset sector) interrupted
  if ret ≠ sectorSize.toInt then (system, -1) else (system, 0)

/-- The return value, and the bytes that are stored in the buffer. -/
def readSector (system : System) (fd : Nat) (sector : BitVec 32) (interrupted : Bool) :
    Int × List UInt8 :=
  let (ret, data) := pread system fd (sectorOffset sector) interrupted
  if ret ≠ sectorSize.toInt then (-1, data) else (0, data)

/-- No sector is locked. -/
def Unlocked (storage : Storage) : Prop :=
  ∀ sector : Int, 0 ≤ sector → sector < storageNumSectors → storage.sectorLockState sector = false

/-- The number is one of a sector. -/
def IsSector (sector : BitVec 32) : Prop := 0 ≤ sector.toInt ∧ sector.toInt < storageNumSectors

instance (sector : BitVec 32) : Decidable (IsSector sector) :=
  inferInstanceAs (Decidable (_ ∧ _))

/-- The offset has the lowest 23 bits of the number, as a signed number of sectors. -/
theorem sector_offset_eq (sector : BitVec 32) :
    sectorOffset sector = 512 * sector.toInt.bmod (2 ^ 23) := by
  have size : sectorSize.toInt = 512 := by decide
  rw [sectorOffset, BitVec.toInt_mul, size]
  simp only [Int.bmod_def]
  omega

/-- A helper gets to a sector of the device. -/
theorem offset_inside (sector : BitVec 32) (index : Nat) (inside : index < 8)
    (low : sector.toInt % 2 ^ 23 = index) : sectorOffset sector = ((512 * index : Nat) : Int) := by
  rw [sector_offset_eq, Int.bmod_def]
  omega

/-- Or to none. -/
theorem offset_outside (sector : BitVec 32) (high : 8 ≤ sector.toInt % 2 ^ 23) :
    sectorOffset sector < 0 ∨ (storageTotalSize : Int) ≤ sectorOffset sector := by
  rw [sector_offset_eq, Int.bmod_def]
  simp only [storageTotalSize]
  omega

/-- An unlocked device touches no lock. -/
theorem untouched_of_unlocked (storage : Storage) (unlocked : Unlocked storage)
    (length offset : Nat) : ¬ TouchesLock storage length offset := by
  rintro ⟨position, lower, upper, locked⟩
  rw [unlocked _ (Int.natCast_nonneg _)] at locked
  · contradiction
  · simp only [storageTotalSize, storageSectorSize, storageNumSectors] at upper ⊢
    omega

section Unlocked

variable (system : System) (fd : Nat) (sector : BitVec 32)

/-- A write that gets to a sector of an unlocked device replaces it. -/
theorem write_sector_stored (buf : List UInt8) (whole : buf.length = 512)
    (unlocked : Unlocked system.storage) (index : Nat) (inside : index < 8)
    (low : sector.toInt % 2 ^ 23 = index) :
    writeSector system fd sector buf false =
      ({ system with storage := { system.storage with
          storageBuffer := store system.storage.storageBuffer (512 * index) buf } }, 0) := by
  have offset := offset_inside sector index inside low
  have within : 512 * index < storageTotalSize := by
    simp only [storageTotalSize]
    omega
  have fits : buf.take (storageTotalSize - 512 * index) = buf :=
    List.take_of_length_le (by simp only [storageTotalSize]; omega)
  have written := storage_write_chunk system.storage buf (512 * index) within
    (by rw [whole]; decide) (by rintro rfl; simp at whole)
    (untouched_of_unlocked system.storage unlocked _ _)
  have positive : ¬ ((512 * index : Nat) : Int) < 0 := by omega
  have length : sectorSize.toNat = buf.length := whole.symm
  have complete : ¬ ((buf.length : Nat) : Int) ≠ sectorSize.toInt := by
    rw [whole]
    decide
  rw [fits] at written
  simp only [writeSector, pwrite, offset, if_neg positive, step, Place.offset, Place.commit,
    Int.toNat_natCast, length, Nat.min_eq_left (show buf.length ≤ maxRwCount by rw [whole]; decide),
    written, if_neg complete]

/-- A read that gets to a sector returns it. -/
theorem read_sector_loaded (index : Nat) (inside : index < 8)
    (low : sector.toInt % 2 ^ 23 = index) :
    readSector system fd sector false =
      (0, load system.storage.storageBuffer (512 * index) 512) := by
  have offset := offset_inside sector index inside low
  have within : 512 * index < storageTotalSize := by
    simp only [storageTotalSize]
    omega
  have reach : min 512 (storageTotalSize - 512 * index) = 512 := by
    simp only [storageTotalSize]
    omega
  have served := simple_read_served system.storage.storageBuffer storageTotalSize (512 * index) 512
    512 within (by decide) le_rfl
  rw [simple_read_window _ _ _ _ _ le_rfl, ← storage_read_window _ _ _ _ (by decide), reach]
    at served
  have positive : ¬ ((512 * index : Nat) : Int) < 0 := by omega
  have length : sectorSize.toNat = 512 := rfl
  have admitted : min 512 maxRwCount = 512 := by decide
  have complete : ¬ ((512 : Nat) : Int) ≠ sectorSize.toInt := by decide
  simp only [readSector, pread, offset, if_neg positive, step, Place.offset, Int.toNat_natCast,
    length, admitted, served, if_neg complete]

/-- A write that gets to none changes nothing and fails. -/
theorem write_sector_refused (buf : List UInt8) (high : 8 ≤ sector.toInt % 2 ^ 23) :
    writeSector system fd sector buf false = (system, -1) := by
  by_cases negative : sectorOffset sector < 0
  · simp only [writeSector, pwrite, if_pos negative]
    exact if_pos (by decide)
  · have past : storageTotalSize ≤ (sectorOffset sector).toNat := by
      have outside := offset_outside sector high
      omega
    have refused : storageWrite 64 system.storage (.ofBytes buf)
        (min sectorSize.toNat maxRwCount) (sectorOffset sector).toNat false =
          ⟨system.storage, -enospc, (sectorOffset sector).toNat⟩ := if_pos past
    simp only [writeSector, pwrite, if_neg negative, step, Place.offset, Place.commit, refused]
    exact if_pos (by decide)

end Unlocked

/-- The helpers address the sector that they are given: a write succeeds exactly for the
number of a sector. Then it replaces this sector, leaves all other bytes, and a read returns
what was written. For any other number it fails and changes nothing. -/
def AddressesSector (system : System) (fd : Nat) (sector : BitVec 32) (buf : List UInt8) : Prop :=
  let written := (writeSector system fd sector buf false).1
  let ret := (writeSector system fd sector buf false).2
  (ret = 0 ↔ IsSector sector) ∧
    (IsSector sector →
      load written.storage.storageBuffer (512 * sector.toInt.toNat) 512 = buf ∧
        (∀ index, index < 512 * sector.toInt.toNat ∨ 512 * sector.toInt.toNat + 512 ≤ index →
          written.storage.storageBuffer index = system.storage.storageBuffer index) ∧
        readSector written fd sector false = (0, buf)) ∧
    (¬ IsSector sector → ret = -1 ∧
      written.storage.storageBuffer = system.storage.storageBuffer)

/-- Without locks, the helpers address the sector that they are given, exactly if its number
is one of a sector or its lowest 23 bits are not. -/
theorem addresses_sector_iff (system : System) (fd : Nat) (sector : BitVec 32) (buf : List UInt8)
    (whole : buf.length = 512) (unlocked : Unlocked system.storage) :
    AddressesSector system fd sector buf ↔ (IsSector sector ∨ 8 ≤ sector.toInt % 2 ^ 23) := by
  by_cases high : 8 ≤ sector.toInt % 2 ^ 23
  · have none : ¬ IsSector sector := by
      simp only [IsSector, storageNumSectors]
      omega
    refine iff_of_true ?_ (Or.inr high)
    simp only [AddressesSector, write_sector_refused system fd sector buf high]
    exact ⟨iff_of_false (by decide) none, fun inside => absurd inside none, fun _ => by simp⟩
  · have low : sector.toInt % 2 ^ 23 = (sector.toInt % 2 ^ 23).toNat := by omega
    have inside : (sector.toInt % 2 ^ 23).toNat < 8 := by omega
    generalize (sector.toInt % 2 ^ 23).toNat = index at low inside
    have stored := write_sector_stored system fd sector buf whole unlocked index inside low
    have bytes := load_store_same system.storage.storageBuffer (512 * index) buf
    rw [whole] at bytes
    simp only [AddressesSector, stored]
    by_cases named : IsSector sector
    · have same : sector.toInt.toNat = index := by
        simp only [IsSector, storageNumSectors] at named
        omega
      refine iff_of_true ⟨iff_of_true trivial named, fun _ => ?_, fun other => absurd named other⟩
        (Or.inl named)
      rw [same]
      refine ⟨bytes, fun other apart => ?_, ?_⟩
      · apply store_outside
        rwa [whole]
      · rw [read_sector_loaded _ fd sector index inside low, bytes]
    · refine iff_of_false (fun addresses => ?_) (fun either => ?_)
      · exact named (addresses.1.mp trivial)
      · exact either.elim named high

/-- A sector of the letter A. -/
def letters : List UInt8 := List.replicate 512 0x41

/-- They fill a sector. -/
theorem letters_length : letters.length = 512 := by rw [letters, List.length_replicate]

/-- The loaded device has no locks. -/
theorem fresh_unlocked : Unlocked fresh.storage := fun _ lower upper => if_pos ⟨lower, upper⟩

/-- A sector of the freshly loaded device is addressed. -/
theorem first_sector_addressed :
    letters.length = 512 ∧ Unlocked fresh.storage ∧ AddressesSector fresh 0 0 letters := by
  exact ⟨letters_length, fresh_unlocked,
    (addresses_sector_iff fresh 0 0 letters letters_length fresh_unlocked).mpr
      (Or.inl (by decide))⟩

/-- Number 2^23 is none of a sector; a write of it succeeds and replaces sector 0. -/
theorem wrapped_sector_written :
    ¬ IsSector 8388608 ∧ (writeSector fresh 0 8388608 letters false).2 = 0 ∧
      load (writeSector fresh 0 8388608 letters false).1.storage.storageBuffer 0 512 = letters ∧
      ¬ AddressesSector fresh 0 8388608 letters := by
  have none : ¬ IsSector 8388608 := by decide
  have stored := write_sector_stored fresh 0 8388608 letters letters_length fresh_unlocked 0
    (by decide) (by decide)
  have bytes := load_store_same fresh.storage.storageBuffer 0 letters
  rw [letters_length] at bytes
  have ret : (writeSector fresh 0 8388608 letters false).2 = 0 := by rw [stored]
  refine ⟨none, ret, by rw [stored]; exact bytes, fun addresses => ?_⟩
  exact none (addresses.1.mp ret)

end LddExamples.SectorHelpers
