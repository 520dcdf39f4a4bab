import LddExamples.StorageDevice

/-!
# The lock scan of a write

A write of the sector storage device looks at the lock of each sector from that of its
first byte to that of the byte before its end. For a write that is not empty these are
the sectors that it touches, and they are in the table. An empty write has no byte before
its end that it touches: inside a sector the scan still looks at that sector, and at
offset 0 the byte before the end is the last one that a `size_t` can number. There the
scan covers nothing where `size_t` has 64 bits, because the sector of that byte is -1 as
an int, and where it has 32 it goes on past the table.
-/

namespace LddExamples.LockScan

open KernelInterface StorageDevice

/-- The sectors whose locks the scan reads: it stops at the first one that is locked. -/
def sectorsRead (locks : Int → Bool) : List Int → List Int
  | [] => []
  | sector :: rest => sector :: if locks sector then [] else sectorsRead locks rest

/-- The indices at which a write reads the lock table. -/
def lockReads (word : Word) (storage : Storage) (length offset : Nat) (interrupted : Bool) :
    List Int :=
  if storageTotalSize ≤ offset then []
  else
    let length := clampedLength word.bits offset length
    if interrupted then []
    else sectorsRead storage.sectorLockState (scannedSectors word.bits offset length)

/-- A scan reads a set lock exactly if there is one among its sectors. -/
theorem any_sectors_read (locks : Int → Bool) (sectors : List Int) :
    (sectorsRead locks sectors).any locks = sectors.any locks := by
  induction sectors with
  | nil => rfl
  | cons sector rest later =>
    by_cases locked : locks sector
    · simp [sectorsRead, locked]
    · simp [sectorsRead, locked, later]

/-- Only sectors of the scan are read. -/
theorem sectors_read_subset (locks : Int → Bool) (sectors : List Int) :
    ∀ sector ∈ sectorsRead locks sectors, sector ∈ sectors := by
  induction sectors with
  | nil => exact fun _ member => member
  | cons first rest later =>
    intro sector member
    simp only [sectorsRead, List.mem_cons] at member
    rcases member with rfl | member
    · exact List.mem_cons_self
    · by_cases locked : locks first
      · rw [if_pos locked] at member
        exact absurd member List.not_mem_nil
      · rw [if_neg locked] at member
        exact List.mem_cons_of_mem _ (later sector member)

/-- The scan does not get past sectors of which one is locked. -/
theorem sectors_read_locked (locks : Int → Bool) (earlier later : List Int)
    (locked : earlier.any locks = true) :
    sectorsRead locks (earlier ++ later) = sectorsRead locks earlier := by
  induction earlier with
  | nil => exact absurd locked Bool.false_ne_true
  | cons sector rest shorter =>
    by_cases here : locks sector
    · simp only [List.cons_append, sectorsRead, here, if_true]
    · have further : rest.any locks = true := by simpa [here] using locked
      simp only [List.cons_append, sectorsRead, shorter further]

/-- The scan gets past sectors of which none is locked. -/
theorem sectors_read_clear (locks : Int → Bool) (earlier later : List Int)
    (clear : earlier.any locks = false) :
    sectorsRead locks (earlier ++ later) = earlier ++ sectorsRead locks later := by
  induction earlier with
  | nil => rfl
  | cons sector rest shorter =>
    obtain ⟨here, further⟩ : locks sector = false ∧ rest.any locks = false := by
      simpa using clear
    simp only [List.cons_append, sectorsRead, here, Bool.false_eq_true, if_false,
      shorter further]

/-- The sectors of the table. -/
def tableSectors : List Int := (List.range 8).map fun index : Nat => (index : Int)

/-- The table has a set lock exactly if one of its sectors is locked. -/
theorem table_clear_iff (locks : Int → Bool) :
    tableSectors.any locks = false ↔
      ∀ sector : Int, 0 ≤ sector → sector < storageNumSectors → locks sector = false := by
  simp only [tableSectors, storageNumSectors, List.any_eq_false, List.mem_map, List.mem_range,
    Bool.not_eq_true]
  constructor
  · exact fun clear sector lower upper => clear sector ⟨sector.toNat, by omega, by omega⟩
  · rintro clear sector ⟨index, below, rfl⟩
    exact clear index (by omega) (by omega)

/-- Where `size_t` has 64 bits, an empty write at offset 0 scans nothing. -/
theorem scan_empty_64 : scannedSectors Word.bits64.bits 0 0 = [] := by decide

/-- Where `size_t` has 32 bits, an empty write at offset 0 scans the table and goes on. -/
theorem scan_empty_32 :
    ∃ later, scannedSectors Word.bits32.bits 0 0 = tableSectors ++ 8 :: later := by
  have first : wrapSigned 32 (((wrapUnsigned 32 0) / 512 : Nat) : Int) = 0 := by decide
  have final : wrapSigned 32 ((wrapUnsigned 32 ((wrapUnsigned 32
      (((wrapUnsigned 32 0 : Nat) : Int) + 0) : Nat) - 1) / 512 : Nat) : Int) = 8388607 := by
    decide
  simp only [scannedSectors, storageSectorSize, Word.bits, Nat.cast_zero, first, final]
  have split : ((8388607 : Int) - 0 + 1).toNat = 8 + (1 + 8388599) := by decide
  rw [split]
  generalize 8388599 = further
  rw [List.range_add, List.range_add]
  simp only [tableSectors, zero_add, List.map_append, List.map_map, List.range_one, List.map_cons,
    List.cons_append, List.nil_append]
  exact ⟨_, rfl⟩

/-- A write that gets to its scan reads the locks that the scan reaches. -/
theorem lock_reads_scan (word : Word) (storage : Storage) (length offset : Nat)
    (inside : offset < storageTotalSize) (admitted : length ≤ maxRwCount) :
    lockReads word storage length offset false =
      sectorsRead storage.sectorLockState
        (scannedSectors word.bits offset (min length (storageTotalSize - offset))) := by
  simp only [lockReads, Nat.not_le_of_gt inside, Bool.false_eq_true, if_false,
    clamped_length word offset length inside admitted]

/-- The scan of a range with a byte before its end stays inside the table. -/
theorem scan_in_table (word : Word) (offset length : Nat) (positive : 0 < offset + length)
    (inside : offset + length ≤ storageTotalSize) (sector : Int)
    (scanned : sector ∈ scannedSectors word.bits offset length) :
    0 ≤ sector ∧ sector < storageNumSectors := by
  have bounds := (scanned_sectors_iff word offset length positive inside sector).mp scanned
  simp only [storageTotalSize] at inside
  simp only [storageNumSectors]
  omega

/-- An empty write at offset 0 reads past the table exactly where `size_t` has 32 bits and
no lock is set. -/
theorem empty_scan_in_table_iff (word : Word) (locks : Int → Bool) :
    (∀ sector ∈ sectorsRead locks (scannedSectors word.bits 0 0),
        0 ≤ sector ∧ sector < storageNumSectors) ↔
      ¬ (word = .bits32 ∧ tableSectors.any locks = false) := by
  have inTable : ∀ sector ∈ tableSectors, 0 ≤ sector ∧ sector < storageNumSectors := by decide
  cases word with
  | bits64 =>
    rw [scan_empty_64]
    exact iff_of_true (fun _ member => absurd member List.not_mem_nil)
      (fun both => Word.noConfusion both.1)
  | bits32 =>
    obtain ⟨later, scanned⟩ := scan_empty_32
    rw [scanned]
    cases locked : tableSectors.any locks with
    | false =>
      rw [sectors_read_clear locks tableSectors (8 :: later) locked]
      refine iff_of_false (fun bounded => ?_) (fun fails => fails ⟨rfl, rfl⟩)
      have beyond := bounded 8 (List.mem_append_right _ List.mem_cons_self)
      exact absurd beyond (by decide)
    | true =>
      rw [sectors_read_locked locks tableSectors (8 :: later) locked]
      refine iff_of_true (fun sector member => ?_) (fun both => Bool.noConfusion both.2)
      exact inTable sector (sectors_read_subset locks tableSectors sector member)

/-- A lock scan stays inside the table, on both kernels and at every offset and length,
unless an empty write at offset 0 finds no lock set where `size_t` has 32 bits. -/
theorem scan_in_table_iff (word : Word) (storage : Storage) (length offset : Nat)
    (interrupted : Bool) (admitted : length ≤ maxRwCount) :
    (∀ sector ∈ lockReads word storage length offset interrupted,
        0 ≤ sector ∧ sector < storageNumSectors) ↔
      ¬ (word = .bits32 ∧ offset = 0 ∧ length = 0 ∧ interrupted = false ∧
        ∀ sector : Int, 0 ≤ sector → sector < storageNumSectors →
          storage.sectorLockState sector = false) := by
  by_cases past : storageTotalSize ≤ offset
  · have none : lockReads word storage length offset interrupted = [] := if_pos past
    rw [none]
    refine iff_of_true (fun _ member => absurd member List.not_mem_nil) (fun fails => ?_)
    simp only [storageTotalSize, fails.2.1] at past
    omega
  · have inside := Nat.lt_of_not_le past
    cases interrupted with
    | true =>
      have none : lockReads word storage length offset true = [] := if_neg past
      rw [none]
      exact iff_of_true (fun _ member => absurd member List.not_mem_nil)
        (fun fails => Bool.noConfusion fails.2.2.2.1)
    | false =>
      rw [lock_reads_scan word storage length offset inside admitted]
      by_cases empty : offset = 0 ∧ length = 0
      · obtain ⟨rfl, rfl⟩ := empty
        rw [Nat.zero_min, empty_scan_in_table_iff, table_clear_iff]
        simp only [true_and]
      · refine iff_of_true (fun sector member => ?_) (fun fails => empty ⟨fails.2.1, fails.2.2.1⟩)
        exact scan_in_table word offset _ (by omega) (by omega) sector
          (sectors_read_subset _ _ sector member)

/-- The device as it is loaded. -/
def unlockedDevice : Storage := storageDriverInit [] (fun _ => 0) (fun _ => 0) (fun _ => false)

/-- A write of a whole sector scans inside the table. -/
theorem sector_scan_in_table :
    512 ≤ maxRwCount ∧ ∀ sector ∈ lockReads .bits32 unlockedDevice 512 0 false,
      0 ≤ sector ∧ sector < storageNumSectors := by
  have admitted : 512 ≤ maxRwCount := by decide
  refine ⟨admitted, (scan_in_table_iff .bits32 unlockedDevice 512 0 false admitted).mpr ?_⟩
  exact fun fails => absurd fails.2.2.1 (by decide)

/-- Where `size_t` has 32 bits, an empty write to the loaded device reads the lock table at
its end. -/
theorem empty_write_reads_past :
    8 ∈ lockReads .bits32 unlockedDevice 0 0 false ∧
      ¬ ∀ sector ∈ lockReads .bits32 unlockedDevice 0 0 false,
        0 ≤ sector ∧ sector < storageNumSectors := by
  have past : 8 ∈ lockReads .bits32 unlockedDevice 0 0 false := by
    obtain ⟨later, scanned⟩ := scan_empty_32
    have clear : tableSectors.any unlockedDevice.sectorLockState = false := by decide
    rw [lock_reads_scan .bits32 unlockedDevice 0 0 (by decide) (by decide), Nat.zero_min, scanned,
      sectors_read_clear _ _ _ clear]
    exact List.mem_append_right _ List.mem_cons_self
  exact ⟨past, fun bounded => absurd (bounded 8 past) (by decide)⟩

/-- Some byte that a write covers lies in a locked sector. -/
def TouchesLock (storage : Storage) (length offset : Nat) : Prop :=
  ∃ position, offset ≤ position ∧ position < offset + min length (storageTotalSize - offset) ∧
    storage.sectorLockState ((position / storageSectorSize : Nat) : Int) = true

/-- The scan of a write that is not empty finds a lock exactly when the write touches a
locked sector. -/
theorem any_scanned_iff (storage : Storage) (length offset : Nat)
    (inside : offset < storageTotalSize) (nonempty : 0 < length) :
    (scannedSectors 64 offset (min length (storageTotalSize - offset))).any
        storage.sectorLockState = true ↔ TouchesLock storage length offset := by
  have scanned := scanned_sectors_64 offset (min length (storageTotalSize - offset)) (by omega)
    (by omega)
  rw [List.any_eq_true]
  constructor
  · rintro ⟨sector, member, locked⟩
    obtain ⟨lower, upper⟩ := (scanned sector).mp member
    -- The first byte of the write in this sector.
    refine ⟨max offset (sector.toNat * 512), by omega, by omega, ?_⟩
    have same : ((max offset (sector.toNat * 512) / storageSectorSize : Nat) : Int) = sector := by
      simp only [storageSectorSize]
      omega
    rw [same]
    exact locked
  · rintro ⟨position, lower, upper, locked⟩
    refine ⟨_, (scanned _).mpr ?_, locked⟩
    simp only [storageSectorSize]
    omega

/-- A write that is not empty and touches no locked sector gets to its copy. -/
theorem accepted_of_untouched (storage : Storage) (length offset : Nat)
    (inside : offset < storageTotalSize) (admitted : length ≤ maxRwCount) (nonempty : 0 < length)
    (untouched : ¬ TouchesLock storage length offset) :
    WriteAccepted 64 storage length offset false := by
  refine ⟨inside, rfl, eq_false_of_ne_true ?_⟩
  rw [clamped_length_64 offset length inside admitted]
  exact fun found => untouched ((any_scanned_iff storage length offset inside nonempty).mp found)

/-- An empty write touches nothing. -/
theorem not_touches_empty (storage : Storage) (offset : Nat) :
    ¬ TouchesLock storage 0 offset := by
  rintro ⟨position, lower, upper, _⟩
  omega

/-- The scan of an empty write finds a lock exactly when the write starts inside a locked
sector, and not at its first byte. -/
theorem any_scanned_empty_iff (storage : Storage) (offset : Nat)
    (inside : offset < storageTotalSize) :
    (scannedSectors 64 offset 0).any storage.sectorLockState = true ↔
      offset % storageSectorSize ≠ 0 ∧
        storage.sectorLockState ((offset / storageSectorSize : Nat) : Int) = true := by
  simp only [storageSectorSize]
  by_cases zero : offset = 0
  · subst zero
    rw [show scannedSectors 64 0 0 = [] from scan_empty_64]
    simp
  · have scanned := scanned_sectors_iff .bits64 offset 0 (by omega) (by omega)
    rw [List.any_eq_true]
    constructor
    · rintro ⟨sector, member, locked⟩
      have bounds := (scanned sector).mp member
      have same : sector = ((offset / 512 : Nat) : Int) := by omega
      exact ⟨by omega, same ▸ locked⟩
    · rintro ⟨unaligned, locked⟩
      exact ⟨_, (scanned _).mpr (by omega), locked⟩

/-- A write is refused for a lock exactly if it reads one that is set. -/
theorem refused_iff_read (word : Word) (storage : Storage) (source : UserSource)
    (length offset : Nat) (interrupted : Bool) :
    (storageWrite word.bits storage source length offset interrupted).ret = -eperm ↔
      (lockReads word storage length offset interrupted).any storage.sectorLockState = true := by
  by_cases past : storageTotalSize ≤ offset
  · simp only [storageWrite, lockReads, if_pos past]
    exact iff_of_false (by decide) Bool.false_ne_true
  · cases interrupted with
    | true =>
      simp only [storageWrite, lockReads, if_neg past, if_true]
      exact iff_of_false (by decide) Bool.false_ne_true
    | false =>
      simp only [lockReads, if_neg past, Bool.false_eq_true, if_false, any_sectors_read]
      by_cases accepted : WriteAccepted word.bits storage length offset false
      · rw [storage_write_accepted word.bits storage source length offset false accepted,
          accepted.2.2]
        refine iff_of_false ?_ Bool.false_ne_true
        split
        · simp only [eperm]
          omega
        · exact show ¬ (-efault : Int) = -eperm by decide
      · have locked : (scannedSectors word.bits offset
            (clampedLength word.bits offset length)).any storage.sectorLockState = true :=
          eq_true_of_ne_false fun unlocked =>
            accepted ⟨Nat.lt_of_not_le past, rfl, unlocked⟩
        refine iff_of_true ?_ locked
        simp only [storageWrite, if_neg past, locked, Bool.false_eq_true, if_false, if_true]

/-- An uninterrupted write inside the buffer is refused for a lock exactly if its scan finds
one. -/
theorem refused_iff_scanned (storage : Storage) (source : UserSource) (length offset : Nat)
    (inside : offset < storageTotalSize) (admitted : length ≤ maxRwCount) :
    (storageWrite 64 storage source length offset false).ret = -eperm ↔
      (scannedSectors 64 offset (min length (storageTotalSize - offset))).any
        storage.sectorLockState = true := by
  have read := refused_iff_read .bits64 storage source length offset false
  rw [lock_reads_scan .bits64 storage length offset inside admitted, any_sectors_read] at read
  exact read

/-- An uninterrupted write inside the buffer is refused for a lock exactly if it touches a
locked sector, and changes nothing when it is, unless it is an empty write that starts
inside a locked sector. -/
theorem refused_iff_touches_iff (storage : Storage) (source : UserSource) (length offset : Nat)
    (inside : offset < storageTotalSize) (admitted : length ≤ maxRwCount) :
    (((storageWrite 64 storage source length offset false).ret = -eperm ↔
          TouchesLock storage length offset) ∧
        ((storageWrite 64 storage source length offset false).ret = -eperm →
          (storageWrite 64 storage source length offset false).state = storage ∧
            (storageWrite 64 storage source length offset false).offset = offset)) ↔
      ¬ (length = 0 ∧ offset % storageSectorSize ≠ 0 ∧
        storage.sectorLockState ((offset / storageSectorSize : Nat) : Int) = true) := by
  have kept : (storageWrite 64 storage source length offset false).ret = -eperm →
      (storageWrite 64 storage source length offset false).state = storage ∧
        (storageWrite 64 storage source length offset false).offset = offset := by
    intro refused
    have locked := (refused_iff_scanned storage source length offset inside admitted).mp refused
    have notAccepted : ¬ WriteAccepted 64 storage length offset false := by
      rintro ⟨_, _, unlocked⟩
      rw [clamped_length_64 offset length inside admitted, locked] at unlocked
      exact Bool.noConfusion unlocked
    have unchanged := storage_write_refused 64 storage source length offset false notAccepted
    exact ⟨unchanged.1, unchanged.2.1⟩
  rw [and_iff_left kept, refused_iff_scanned storage source length offset inside admitted]
  rcases Nat.eq_zero_or_pos length with rfl | nonempty
  · rw [Nat.zero_min, any_scanned_empty_iff storage offset inside]
    simp only [not_touches_empty, iff_false, true_and]
  · refine iff_of_true (any_scanned_iff storage length offset inside nonempty) ?_
    exact fun fails => absurd fails.1 (Nat.ne_of_gt nonempty)

/-- The loaded device after a request to lock sector 0. -/
def sectorLocked : Storage := (lockSector unlockedDevice (.ofBytes [0, 0, 0, 0])).1

/-- A write of one byte to the locked sector touches it and is refused for it. -/
theorem byte_refused_iff_touches :
    0 < storageTotalSize ∧ 1 ≤ maxRwCount ∧
      ((((storageWrite 64 sectorLocked (.ofBytes [65]) 1 0 false).ret = -eperm ↔
            TouchesLock sectorLocked 1 0) ∧
          ((storageWrite 64 sectorLocked (.ofBytes [65]) 1 0 false).ret = -eperm →
            (storageWrite 64 sectorLocked (.ofBytes [65]) 1 0 false).state = sectorLocked ∧
              (storageWrite 64 sectorLocked (.ofBytes [65]) 1 0 false).offset = 0)) ↔
        ¬ (1 = 0 ∧ 0 % storageSectorSize ≠ 0 ∧
          sectorLocked.sectorLockState ((0 / storageSectorSize : Nat) : Int) = true)) :=
  ⟨by decide, by decide,
    refused_iff_touches_iff sectorLocked (.ofBytes [65]) 1 0 (by decide) (by decide)⟩

/-- A write of no bytes inside the locked sector is refused, and touches nothing. -/
theorem empty_write_refused :
    (storageWrite 64 sectorLocked (.ofBytes []) 0 1 false).ret = -eperm ∧
      ¬ ((storageWrite 64 sectorLocked (.ofBytes []) 0 1 false).ret = -eperm ↔
        TouchesLock sectorLocked 0 1) := by
  have refused : (storageWrite 64 sectorLocked (.ofBytes []) 0 1 false).ret = -eperm := by
    rw [refused_iff_scanned sectorLocked (.ofBytes []) 0 1 (by decide) (by decide), Nat.zero_min,
      any_scanned_empty_iff sectorLocked 1 (by decide)]
    decide +kernel
  exact ⟨refused, fun both => not_touches_empty sectorLocked 1 (both.mp refused)⟩

end LddExamples.LockScan
