import LddExamples.CharacterSkeleton
import LddExamples.MultiMinorDevice

/-!
# What a write leaves outside its range

The multi-minor driver and the driver skeleton keep the length of their content beside the
buffer, and a write updates it. The multi-minor driver raises it to the end of the write if
it ends further; the skeleton sets it to the end of the write. A write there that ends
before the content does cuts off what lies behind, although the bytes are still in the
buffer.
-/

namespace LddExamples.WrittenRanges

open Runs ByteWindows KernelInterface

/-- What was readable outside a range is readable afterwards, and the same. -/
def RestKept (memory later : Memory) (length laterLength start count : Nat) : Prop :=
  ∀ index < length, ¬ (start ≤ index ∧ index < start + count) →
    index < laterLength ∧ later index = memory index

/-- A store keeps the rest exactly if it leaves all of the rest readable. -/
theorem rest_kept_store_iff (memory : Memory) (length laterLength start : Nat)
    (bytes : List UInt8) :
    RestKept memory (store memory start bytes) length laterLength start bytes.length ↔
      ∀ index < length, ¬ (start ≤ index ∧ index < start + bytes.length) →
        index < laterLength := by
  constructor
  · exact fun kept index readable outside => (kept index readable outside).1
  · intro reaches index readable outside
    refine ⟨reaches index readable outside, store_outside memory start bytes index ?_⟩
    omega

section MultiMinor

open MultiMinorDevice

/-- A successful write keeps the rest of its device's content. -/
def MydevKeepsRest (word : Word) (event : Event System Call) : Prop :=
  match event.call with
  | .write file place _ _ _ =>
      ∀ minor, event.before.privateData file = some minor →
        0 ≤ (event.reply (step word)).ret →
          RestKept (event.before.devices minor).buf ((event.left (step word)).devices minor).buf
            (event.before.devices minor).len ((event.left (step word)).devices minor).len
            (place.offset event.before.positions file) (event.reply (step word)).ret.toNat
  | _ => True

/-- Every write keeps the rest of the content. -/
theorem mydev_write_keeps_rest (word : Word) (event : Event System Call)
    (bounded : Bounded event.before.devices) : MydevKeepsRest word event := by
  obtain ⟨system, call⟩ := event
  cases call with
  | write file place count source interrupted =>
    intro minor opened
    simp only [Event.reply, Event.left] at opened ⊢
    by_cases accepted : WriteAccepted (system.privateData file) (place.offset system.positions file)
        interrupted minor
    · have inside := accepted.2.2
      have admitted : ¬ loffLimit ≤ place.offset system.positions file := by
        simp only [bufSize, loffLimit] at inside ⊢
        omega
      have stored := mydev_write_accepted word system.devices (system.privateData file) source
        (min count maxRwCount) (place.offset system.positions file) interrupted minor
        (bounded minor) accepted
      simp only [step, if_neg admitted, stored]
      generalize min (min count maxRwCount) (bufSize - place.offset system.positions file) = stop
      by_cases complete : source.uncopied stop = 0
      · have landed := source.landed_length_complete stop complete
        have kept := rest_kept_store_iff (system.devices minor).buf (system.devices minor).len
          (max (system.devices minor).len (place.offset system.positions file + stop))
          (place.offset system.positions file) (source.landed stop)
        rw [landed] at kept
        simp only [complete, ne_eq, not_true_eq_false, if_false, Function.update_self,
          Int.toNat_natCast]
        exact fun _ => kept.mpr fun index readable _ => lt_max_of_lt_left readable
      · simp [complete]
    · have refused (other : Minor) :
          ¬ WriteAccepted (system.privateData file) (place.offset system.positions file)
            interrupted other := by
        rintro ⟨same, quiet, inside⟩
        exact accepted ⟨opened, quiet, inside⟩
      obtain ⟨ret, failed, negative⟩ := mydev_write_refused word system.devices
        (system.privateData file) source (min count maxRwCount)
        (place.offset system.positions file) interrupted refused
      simp only [step, failed]
      intro success
      split at success
      · exact absurd success (show ¬ (0 : Int) ≤ -einval by decide)
      · exact absurd success (Int.not_le.mpr negative)
  | _ => trivial

end MultiMinor

section Skeleton

open CharacterSkeleton

/-- A successful write keeps the rest of the content. -/
def KeepsRest (event : Event System Call) : Prop :=
  match event.call with
  | .write file place _ _ =>
      0 ≤ (event.reply step).ret →
        RestKept event.before.skeleton.buffer (event.left step).skeleton.buffer
          event.before.skeleton.bufferSize (event.left step).skeleton.bufferSize
          (place.offset event.before.positions file) (event.reply step).ret.toNat
  | _ => True

/-- A write that starts inside the buffer and is copied completely does not end before the
content does. -/
def ReachesEnd (event : Event System Call) : Prop :=
  match event.call with
  | .write file place len source =>
      let offset := place.offset event.before.positions file
      let len := min (min len maxRwCount) (bufSize - offset)
      offset < bufSize → source.uncopied len = 0 →
        event.before.skeleton.bufferSize ≤ offset + len
  | _ => True

/-- All of the content lies outside the range or before its end exactly if the content does
not reach further. -/
theorem rest_before_iff (length start count : Nat) :
    (∀ index < length, ¬ (start ≤ index ∧ index < start + count) → index < start + count) ↔
      length ≤ start + count := by
  constructor
  · intro reaches
    by_contra short
    have last := reaches (length - 1) (by omega) (by omega)
    omega
  · intro ends index readable _
    omega

/-- A write keeps the rest of the content exactly if it does not end before the content. -/
theorem keeps_rest_iff (event : Event System Call) : KeepsRest event ↔ ReachesEnd event := by
  obtain ⟨system, call⟩ := event
  cases call with
  | read | seek => exact Iff.rfl
  | write file place len source =>
    simp only [KeepsRest, ReachesEnd, Event.reply, Event.left]
    by_cases past : bufSize ≤ place.offset system.positions file
    · refine iff_of_true (fun success => absurd success ?_) (fun inside => absurd past (by omega))
      simp only [step, my_write_past _ _ _ _ past]
      split <;> simp
    · have inside := Nat.lt_of_not_le past
      have admitted : ¬ loffLimit ≤ place.offset system.positions file := by
        simp only [bufSize, loffLimit] at inside ⊢
        omega
      simp only [step, if_neg admitted, my_write_inside _ _ _ _ inside]
      generalize min (min len maxRwCount) (bufSize - place.offset system.positions file) = count
      by_cases complete : source.uncopied count = 0
      · have landed := source.landed_length_complete count complete
        have kept := rest_kept_store_iff system.skeleton.buffer system.skeleton.bufferSize
          (place.offset system.positions file + count) (place.offset system.positions file)
          (source.landed count)
        rw [landed, rest_before_iff] at kept
        simp only [complete, ne_eq, not_true_eq_false, if_false, Int.natCast_nonneg, true_imp_iff,
          Int.toNat_natCast, inside]
        exact kept
      · simp [complete]

end Skeleton

open CharacterSkeleton

/-- In every run of the multi-minor driver, each successful write keeps all readable bytes
outside its range readable and the same. In a run of the skeleton, each does exactly if no
write that is copied completely ends before the content does. -/
theorem writes_keep_rest_iff (word : Word) (memory : MultiMinorDevice.Minor → Memory)
    (mydevCalls : List MultiMinorDevice.Call) (positions : Positions) (calls : List Call) :
    (∀ event ∈ trace (MultiMinorDevice.step word) (MultiMinorDevice.loaded memory) mydevCalls,
        MydevKeepsRest word event) ∧
      ((∀ event ∈ trace step (loaded positions) calls, KeepsRest event) ↔
        ∀ event ∈ trace step (loaded positions) calls, ReachesEnd event) := by
  constructor
  · intro event member
    apply mydev_write_keeps_rest
    exact invariant_met (MultiMinorDevice.step word)
      (fun system => MultiMinorDevice.Bounded system.devices)
      (fun system call bounded => MultiMinorDevice.bounded_kept word system call bounded)
      (MultiMinorDevice.loaded memory) mydevCalls (fun _ => Nat.zero_le _) event member
  · exact forall₂_congr fun event _ => keeps_rest_iff event

/-- The first of four bytes is written again. -/
def firstAgain : List Call :=
  [.write 0 .current 4 (.ofBytes [97, 98, 99, 100]), .seek 0 0,
    .write 0 .current 1 (.ofBytes [65])]

/-- The other three are no longer readable. -/
theorem rest_lost :
    (after step (loaded fun _ => 0) (firstAgain.take 2)).skeleton.bufferSize = 4 ∧
      (after step (loaded fun _ => 0) firstAgain).skeleton.bufferSize = 1 ∧
      ¬ ∀ event ∈ trace step (loaded fun _ => 0) firstAgain, KeepsRest event := by
  refine ⟨by decide, by decide, fun kept => ?_⟩
  have last := kept ⟨after step (loaded fun _ => 0) (firstAgain.take 2),
    .write 0 .current 1 (.ofBytes [65])⟩ (List.getLast_mem (by simp [firstAgain]))
  have second := last (by decide) 1 (by decide) (by decide)
  exact absurd second.1 (by decide)

end LddExamples.WrittenRanges
