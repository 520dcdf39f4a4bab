import LddExamples.StorageRuns

/-!
# What a sector lock promises

While a sector is locked its bytes do not change, and a lock is cleared only by a
request whose key is configured: both hold in every run, because every call that
can reach a byte has checked the lock of that byte's sector.

A lock can be undone for half of the sectors only. The sector field of an unlock
request is signed and three bits wide, so it names 0 to 3 and never 4 to 7, while
a lock request names all eight. A lock on one of the upper four is permanent.
-/

namespace LddExamples.SectorLocks

open Runs ByteWindows KernelInterface StorageDevice StorageRuns

/-- The keys of the loaded driver are configured for the whole run. -/
theorem keys_after (start : System) (calls : List Call) :
    (after step start calls).storage.userKeys = start.storage.userKeys :=
  invariant_after step (fun system => system.storage.userKeys = start.storage.userKeys)
    (fun system call same => (keys_kept system call).trans same) start calls rfl

/-- An accepted key is the first byte of a configured string. -/
theorem key_accepted_iff (userKeys : List (Option (List UInt8))) (key : UInt8) :
    keyAccepted userKeys key = true ↔ ∃ text, some text ∈ userKeys ∧ text.headD 0 = key := by
  simp only [keyAccepted]
  rw [List.any_eq_true]
  constructor
  · rintro ⟨entry, member, found⟩
    cases entry with
    | none => contradiction
    | some text => exact ⟨text, member, by simpa using found⟩
  · rintro ⟨text, member, first⟩
    exact ⟨some text, member, by simpa using first⟩

/-- Between two states, no byte of the sector has changed. -/
def SectorKept (before later : System) (sector : Int) : Prop :=
  ∀ index : Nat, 512 * sector ≤ index → (index : Int) < 512 * (sector + 1) →
    later.storage.storageBuffer index = before.storage.storageBuffer index

/-- From a state in which a sector is locked, a run without an accepted unlock
request for it keeps the lock and the sector's bytes.

Proof: the lock and the bytes together are an invariant of the calls that are
not such a request. The lock is what keeps the bytes over a call, and a call that
cleared it would be such a request. -/
theorem locked_run_keeps (start : System) (calls : List Call) (sector : Int)
    (locked : start.storage.sectorLockState sector = true)
    (quiet : ∀ event ∈ trace step start calls, ¬ UnlocksSector event sector) :
    (after step start calls).storage.sectorLockState sector = true ∧
      SectorKept start (after step start calls) sector := by
  refine (invariant_along step
    (fun system => system.storage.sectorLockState sector = true ∧ SectorKept start system sector)
    (fun event => ¬ UnlocksSector event sector) ?_ start calls
    ⟨locked, fun _ _ _ => rfl⟩ quiet).1
  rintro ⟨system, call⟩ ⟨stillLocked, kept⟩ notUnlocked
  constructor
  · by_contra cleared
    obtain ⟨arg, rfl, admitted, named⟩ :=
      unlocked_by_request system call sector stillLocked (Bool.eq_false_iff.mpr cleared)
    refine notUnlocked ⟨arg, false, rfl, ?_, named⟩
    simp only [Event.reply, step, storageIoctl, unlock_sector_admitted system.storage arg admitted]
  · intro index lower upper
    have inSector : ((index / storageSectorSize : Nat) : Int) = sector := by
      simp only [storageSectorSize]
      omega
    exact (locked_byte_kept system call index (inSector ▸ stillLocked)).trans
      (kept index lower upper)

/-- An accepted lock request leaves its sector locked. -/
theorem lock_request_locks (event : Event System Call) (sector : Int)
    (accepted : LocksSector event sector) :
    (event.left step).storage.sectorLockState sector = true ∧ 0 ≤ sector ∧ sector < 8 := by
  obtain ⟨system, call⟩ := event
  obtain ⟨arg, rfl, success, named⟩ := accepted
  simp only [Event.reply, Event.left, step, storageIoctl, lockSector] at success ⊢
  rcases with_sector_cases system.storage arg (fun sectorIndex =>
      ({ system.storage with
          sectorLockState := Function.update system.storage.sectorLockState sectorIndex true },
        ⟨0, []⟩)) with ⟨_, failed⟩ | ⟨number, copied, below, locks⟩
  · exact absurd success (Int.ne_of_lt failed)
  · have same : sector = number := Option.some.inj (named.symm.trans copied)
    rw [locks, same]
    exact ⟨Function.update_self _ _ _, by omega, by omega⟩

/-- Sector lock safety, in every run from the loaded driver. After an accepted
lock request the sector's bytes do not change until an accepted unlock request
for it; and a lock goes from set to clear only in an unlock request whose decoded
key is the first byte of a configured string. -/
theorem sector_locks_safe (userKeys : List (Option (List UInt8))) (memory mirror : Memory)
    (locks : Int → Bool) (positions : Positions) (calls : List Call) (sector : Int) :
    (∀ earlier call later, calls = earlier ++ call :: later →
      LocksSector ⟨after step (loaded userKeys memory mirror locks positions) earlier, call⟩
        sector →
      (∀ event ∈ trace step
          (after step (loaded userKeys memory mirror locks positions) (earlier ++ [call])) later,
        ¬ UnlocksSector event sector) →
      SectorKept (after step (loaded userKeys memory mirror locks positions) (earlier ++ [call]))
        (after step (loaded userKeys memory mirror locks positions) calls) sector) ∧
    (∀ event ∈ trace step (loaded userKeys memory mirror locks positions) calls,
      event.before.storage.sectorLockState sector = true →
      (event.left step).storage.sectorLockState sector = false →
      ∃ arg interrupted, event.call = .ioctl (.unlockSector arg interrupted) ∧
        ∃ text, some text ∈ (loaded userKeys memory mirror locks positions).storage.userKeys ∧
          text.headD 0 = (decodeUnlockRequest (arg.landed 4)).key) := by
  constructor
  · rintro earlier call later rfl accepted quiet
    have split : earlier ++ call :: later = (earlier ++ [call]) ++ later := by simp
    have locked := (lock_request_locks _ sector accepted).1
    rw [split, after_append step _ (earlier ++ [call]) later]
    refine (locked_run_keeps _ later sector ?_ quiet).2
    rw [after_append]
    exact locked
  · rintro event member locked cleared
    obtain ⟨arg, isUnlock, admitted, _⟩ :=
      unlocked_by_request event.before event.call sector locked cleared
    have keys : event.before.storage.userKeys =
        (loaded userKeys memory mirror locks positions).storage.userKeys :=
      invariant_met step
        (fun system => system.storage.userKeys =
          (loaded userKeys memory mirror locks positions).storage.userKeys)
        (fun system next same => (keys_kept system next).trans same) _ calls rfl event member
    refine ⟨arg, false, isUnlock, ?_⟩
    rw [← keys]
    exact (key_accepted_iff _ _).mp admitted.2.2.2

/-- The sector field of an unlock request is at most 3. -/
theorem decoded_sector_le (bytes : List UInt8) : (decodeUnlockRequest bytes).sector < 4 := by
  unfold decodeUnlockRequest wrapSigned
  simp only
  rw [Int.bmod_def]
  omega

/-- A sector above 3, once locked, is locked in every later state of every run:
no request can name it. -/
theorem upper_lock_permanent (start : System) (calls : List Call) (sector : Int)
    (upper : 4 ≤ sector) (locked : start.storage.sectorLockState sector = true) :
    (after step start calls).storage.sectorLockState sector = true ∧
      SectorKept start (after step start calls) sector := by
  apply locked_run_keeps start calls sector locked
  rintro event _ ⟨arg, _, _, _, named⟩
  have small := decoded_sector_le (arg.landed 4)
  omega

/-- A request of four bytes whose uninterrupted call clears the lock of exactly
this sector. -/
def CanUnlock (system : System) (sector : Int) : Prop :=
  ∃ request : List UInt8, request.length = 4 ∧
    (step system (.ioctl (.unlockSector (.ofBytes request) false))).2.ret = 0 ∧
    (step system (.ioctl (.unlockSector (.ofBytes request) false))).1.storage.sectorLockState =
      Function.update system.storage.sectorLockState sector false

/-- With a configured key, a sector of the lower four can be unlocked: its number
fits the field. -/
theorem lower_can_unlock (system : System) (sector : Int) (nonneg : 0 ≤ sector) (lower : sector < 4)
    (text : List UInt8) (configured : some text ∈ system.storage.userKeys) :
    CanUnlock system sector := by
  let request : List UInt8 := [UInt8.ofNat sector.toNat, text.headD 0, 0, 0]
  have landed : (UserSource.ofBytes request).landed 4 = request :=
    UserSource.landed_ofBytes request 4
  have field : (decodeUnlockRequest request).sector = sector := by
    simp only [decodeUnlockRequest, request, List.headD_cons, UInt8.toNat_ofNat', wrapSigned]
    rw [Int.bmod_def]
    omega
  have admitted : UnlockAdmitted system.storage (.ofBytes request) := by
    rw [UnlockAdmitted, landed, field]
    refine ⟨UserSource.uncopied_ofBytes request, nonneg, ?_, ?_⟩
    · simp only [storageNumSectors]
      omega
    · exact (key_accepted_iff _ _).mpr ⟨text, configured, rfl⟩
  refine ⟨request, rfl, ?_, ?_⟩
  · simp only [step, storageIoctl, unlock_sector_admitted _ _ admitted]
  · simp only [step, storageIoctl, unlock_sector_admitted _ _ admitted, landed, field]

/-- In every state, a locked sector above 3 cannot be unlocked. -/
theorem upper_cannot_unlock (system : System) (sector : Int) (upper : 4 ≤ sector)
    (locked : system.storage.sectorLockState sector = true) : ¬ CanUnlock system sector := by
  rintro ⟨request, _, _, cleared⟩
  have kept := (upper_lock_permanent system [.ioctl (.unlockSector (.ofBytes request) false)]
    sector upper locked).1
  rw [after_cons, after_nil, cleared, Function.update_self] at kept
  contradiction

/-- In every reachable state, a lock that was accepted for a sector can be undone
exactly when the sector is one of the lower four. -/
theorem lock_undone_iff (userKeys : List (Option (List UInt8))) (memory mirror : Memory)
    (locks : Int → Bool) (positions : Positions) (calls : List Call) (arg : UserSource)
    (sector : Int)
    (configured : ∃ text,
      some text ∈ (loaded userKeys memory mirror locks positions).storage.userKeys)
    (accepted : LocksSector
      ⟨after step (loaded userKeys memory mirror locks positions) calls, .ioctl (.lockSector arg)⟩
      sector) :
    CanUnlock (step (after step (loaded userKeys memory mirror locks positions) calls)
      (.ioctl (.lockSector arg))).1 sector ↔ sector < 4 := by
  obtain ⟨locked, nonneg, _⟩ := lock_request_locks _ sector accepted
  constructor
  · intro can
    by_contra upper
    exact upper_cannot_unlock _ sector (by omega) locked can
  · intro lower
    obtain ⟨text, member⟩ := configured
    apply lower_can_unlock _ sector nonneg lower text
    rw [keys_kept, keys_after]
    exact member

/-- On the fresh driver, sector 2 can be locked and unlocked again. -/
theorem lock_two_undone :
    CanUnlock (step (after step fresh []) (.ioctl (.lockSector (.ofBytes [2, 0, 0, 0])))).1 2 :=
  (lock_undone_iff [] (fun _ => 0) (fun _ => 0) (fun _ => false) (fun _ => 0) []
    (.ofBytes [2, 0, 0, 0]) 2 ⟨[0x41], by decide⟩ ⟨.ofBytes [2, 0, 0, 0], rfl, rfl, by decide⟩).mpr
    (by decide)

/-- On the fresh driver, the lock request for sector 4 is accepted, some key is
configured, and no request undoes the lock. -/
theorem lock_four_permanent :
    (∃ text, some text ∈ fresh.storage.userKeys) ∧
      LocksSector ⟨fresh, .ioctl (.lockSector (.ofBytes [4, 0, 0, 0]))⟩ 4 ∧
      ¬ CanUnlock (step fresh (.ioctl (.lockSector (.ofBytes [4, 0, 0, 0])))).1 4 := by
  have accepted : LocksSector ⟨fresh, .ioctl (.lockSector (.ofBytes [4, 0, 0, 0]))⟩ 4 :=
    ⟨.ofBytes [4, 0, 0, 0], rfl, rfl, by decide⟩
  refine ⟨⟨[0x41], by decide⟩, accepted, ?_⟩
  exact upper_cannot_unlock _ 4 (by decide) (lock_request_locks _ 4 accepted).1

end LddExamples.SectorLocks
