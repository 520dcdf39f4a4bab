import LddExamples.SectorLocks

/-!
# The unlock request of the user program and its decoding

`storage_user.c` fills a struct whose first member is a whole int and whose key
follows it in byte 4. The driver copies four bytes and takes the sector from the
low three bits of byte 0 and the key from byte 1. The driver therefore never sees
the program's key, and what it takes for a key is the second byte of the sector.
-/

namespace LddExamples.UnlockRequests

open KernelInterface StorageDevice StorageRuns SectorLocks

/-- The bytes of the program's `struct unlock_request`: the sector, the key, and
three bytes of padding. -/
def unlockRequest (sector : BitVec 32) (key : UInt8) (padding : List UInt8) : List UInt8 :=
  intBytes sector ++ key :: padding

/-- Only the sector reaches the driver. -/
theorem request_landed (sector : BitVec 32) (key : UInt8) (padding : List UInt8) :
    (UserSource.ofBytes (unlockRequest sector key padding)).landed 4 = intBytes sector := by
  rw [UserSource.landed_ofBytes]
  rfl

/-- The driver's view of the request: a three-bit number, and the sector's second
byte as the key. -/
theorem request_decoded (sector : BitVec 32) :
    decodeUnlockRequest (intBytes sector) =
      ⟨wrapSigned 3 (sector.toNat % 8 : Nat), UInt8.ofNat (sector.toNat / 256)⟩ := by
  have field : wrapSigned 3 ((sector.toNat % 256 : Nat) : Int) =
      wrapSigned 3 ((sector.toNat % 8 : Nat) : Int) := by
    simp only [wrapSigned]
    rw [Int.bmod_def, Int.bmod_def]
    omega
  simp only [decodeUnlockRequest, intBytes, List.range, List.range.loop, List.map_cons,
    List.headD_cons, Nat.pow_zero, Nat.div_one, UInt8.toNat_ofNat']
  exact congrArg (UnlockRequest.mk · _) field

/-- The three-bit field is negative from 4 on, and the number itself below. -/
theorem field_value (sector : BitVec 32) :
    wrapSigned 3 ((sector.toNat % 8 : Nat) : Int) =
      if sector.toNat % 8 < 4 then ((sector.toNat % 8 : Nat) : Int)
      else (sector.toNat % 8 : Nat) - 8 := by
  simp only [wrapSigned]
  rw [Int.bmod_def]
  split <;> omega

/-- The driver admits the request exactly when the low three bits of the sector
number denote 0 to 3 and its second byte is an accepted key. -/
theorem request_admitted_iff (storage : Storage) (sector : BitVec 32) (key : UInt8)
    (padding : List UInt8) :
    UnlockAdmitted storage (.ofBytes (unlockRequest sector key padding)) ↔
      sector.toNat % 8 < 4 ∧
        keyAccepted storage.userKeys (UInt8.ofNat (sector.toNat / 256)) = true := by
  have complete : (UserSource.ofBytes (unlockRequest sector key padding)).uncopied 4 = 0 := by
    simp [UserSource.uncopied, UserSource.ofBytes, unlockRequest, intBytes]
  rw [UnlockAdmitted, request_landed, request_decoded]
  simp only [field_value, storageNumSectors]
  constructor
  · rintro ⟨_, lower, _, known⟩
    refine ⟨?_, known⟩
    split at lower <;> omega
  · rintro ⟨small, known⟩
    rw [if_pos small]
    exact ⟨complete, by omega, by omega, known⟩

/-- What the program may expect of an uninterrupted request: a sector of the
device and a configured key clear exactly that lock, and everything else is
refused without clearing any. -/
def Honoured (storage : Storage) (sector : BitVec 32) (key : UInt8) (padding : List UInt8) : Prop :=
  let called := unlockSector storage (.ofBytes (unlockRequest sector key padding)) false
  if 0 ≤ sector.toInt ∧ sector.toInt < 8 ∧ keyAccepted storage.userKeys key = true then
    called.2.ret = 0 ∧
      called.1.sectorLockState = Function.update storage.sectorLockState sector.toInt false
  else called.2.ret < 0 ∧ called.1.sectorLockState = storage.sectorLockState

/-- The requests that survive the two layouts. One that ought to succeed needs a
sector up to 3 and an empty string among the keys, since the byte taken for its
key is zero. Any other is refused when the field is negative or the second byte
of the sector number is no key. -/
def SurvivesDecoding (storage : Storage) (sector : BitVec 32) (key : UInt8) : Prop :=
  if 0 ≤ sector.toInt ∧ sector.toInt < 8 ∧ keyAccepted storage.userKeys key = true then
    sector.toInt < 4 ∧ keyAccepted storage.userKeys 0 = true
  else
    4 ≤ sector.toNat % 8 ∨
      keyAccepted storage.userKeys (UInt8.ofNat (sector.toNat / 256)) = false

/-- For every sector number, key, key table and lock table, the driver does what
the program expects exactly for the requests that survive the two layouts.

Proof: a request for a sector below 8 has a zero second byte and its own number
as low bits, so it is admitted under the stated condition, and the field then is
its number. A request that ought to be refused is refused exactly when it is not
admitted. -/
theorem honoured_iff (storage : Storage) (sector : BitVec 32) (key : UInt8)
    (padding : List UInt8) :
    Honoured storage sector key padding ↔ SurvivesDecoding storage sector key := by
  have admittedIff := request_admitted_iff storage sector key padding
  have signed := BitVec.toInt_eq_toNat_cond sector
  simp only [Honoured, SurvivesDecoding]
  by_cases expected : 0 ≤ sector.toInt ∧ sector.toInt < 8 ∧
      keyAccepted storage.userKeys key = true
  · simp only [if_pos expected]
    have small : sector.toNat < 8 ∧ (sector.toNat : Int) = sector.toInt := by
      obtain ⟨lower, upper, _⟩ := expected
      split at signed <;> omega
    have second : sector.toNat / 256 = 0 := by omega
    rw [second] at admittedIff
    constructor
    · rintro ⟨success, _⟩
      by_contra refused
      have failed := (unlock_sector_refused storage
        (.ofBytes (unlockRequest sector key padding)) false (by
          rintro ⟨admitted, _⟩
          obtain ⟨low, known⟩ := admittedIff.mp admitted
          exact refused ⟨by omega, known⟩)).2
      omega
    · rintro ⟨low, known⟩
      have admitted := admittedIff.mpr ⟨by omega, known⟩
      rw [unlock_sector_admitted storage _ admitted]
      refine ⟨rfl, ?_⟩
      have named : (decodeUnlockRequest
          ((UserSource.ofBytes (unlockRequest sector key padding)).landed 4)).sector =
            sector.toInt := by
        rw [request_landed, request_decoded]
        simp only [field_value]
        split <;> omega
      rw [named]
  · simp only [if_neg expected]
    constructor
    · rintro ⟨failed, _⟩
      by_contra survives
      have admitted := admittedIff.mpr ⟨by omega, by
        simp only [not_or, Bool.not_eq_false] at survives
        exact survives.2⟩
      rw [unlock_sector_admitted storage _ admitted] at failed
      exact absurd failed (Int.lt_irrefl 0)
    · intro survives
      have refused := unlock_sector_refused storage
        (.ofBytes (unlockRequest sector key padding)) false (by
          rintro ⟨admitted, _⟩
          obtain ⟨low, known⟩ := admittedIff.mp admitted
          rcases survives with high | unknown
          · omega
          · rw [unknown] at known
            contradiction)
      exact ⟨refused.2, by rw [refused.1]⟩

/-- The demo's request, sector 2 with key B, is refused although B is configured:
the byte taken for its key is zero. -/
theorem demo_request_refused : ¬ Honoured fresh.storage 2 0x42 [0, 0, 0] := by
  intro honoured
  simp only [Honoured] at honoured
  rw [if_pos (by decide)] at honoured
  exact absurd honoured.1 (by decide)

end LddExamples.UnlockRequests
