import LddExamples.MultiMinorBounds

/-!
# Seeks at the limits of a file offset

A seek adds a 64-bit offset to the file position or to the length of the content, in
types in which the sum may wrap around. Both are at most the size of the buffer in every
reachable state, so that only a sum close to 2^63 can leave the signed range, and then it
becomes negative: it is refused with and without the wrap.
-/

namespace LddExamples.SeekLimits

open Runs ByteWindows KernelInterface MultiMinorDevice MultiMinorBounds

/-- The position that a seek asks for, as an exact sum. -/
def exactPosition (len fPos : Nat) (off whence : Int) : Option Int :=
  if whence = seekSet then some off
  else if whence = seekCur then some (fPos + off)
  else if whence = seekEnd then some (len + off)
  else none

/-- What a seek leaves and returns if its sum is exact. -/
def exactSeek (system : System) (file : Nat) (minor : Minor) (off : BitVec 64) (whence : Int) :
    System × Reply :=
  match exactPosition (system.devices minor).len (system.positions file) off.toInt whence with
  | none => (system, ⟨-einval, []⟩)
  | some target =>
      if 0 ≤ target ∧ target ≤ bufSize then
        ({ system with positions := Function.update system.positions file target.toNat },
          ⟨target, []⟩)
      else (system, ⟨-einval, []⟩)

/-- A sum of a position in the buffer and an offset is in the buffer or not, wrapped or exact,
and it is exact if it is in the buffer. -/
theorem wrapped_sum (base : Nat) (off : BitVec 64) (small : base ≤ bufSize) :
    let wrapped := wrapSigned 64 (base + off.toInt)
    (wrapped < 0 ∨ (bufSize : Int) < wrapped ↔
        ¬ (0 ≤ base + off.toInt ∧ base + off.toInt ≤ bufSize)) ∧
      (¬ (wrapped < 0 ∨ (bufSize : Int) < wrapped) → wrapped = base + off.toInt) := by
  have lower := off.le_toInt
  have upper := off.toInt_lt
  simp only [bufSize, wrapSigned, Int.bmod_def] at small lower upper ⊢
  omega

/-- The common type of a length and an offset does not show in the sum. -/
theorem wrap_mixed (word : Word) (sum : Int) :
    wrapSigned 64 (word.mixed sum) = wrapSigned 64 sum := by
  cases word with
  | bits32 =>
    simp only [Word.mixed, wrapSigned, Int.bmod_bmod]
  | bits64 =>
    simp only [Word.mixed, wrapUnsigned, wrapSigned, Int.bmod_def]
    omega

/-- The position that a seek computes is wrapped, except for the offset itself. -/
theorem new_position_exact (word : Word) (len fPos : Nat) (off : BitVec 64) (whence : Int) :
    newPosition word len fPos off.toInt whence =
      (exactPosition len fPos off.toInt whence).map (wrapSigned 64) := by
  have own : wrapSigned 64 off.toInt = off.toInt := by
    have lower := off.le_toInt
    have upper := off.toInt_lt
    simp only [wrapSigned, Int.bmod_def]
    omega
  simp only [newPosition, exactPosition, wrap_mixed]
  split
  · rw [Option.map_some, own]
  · split
    · rfl
    · split
      · rfl
      · rfl

/-- The exact position is a sum of the offset and a number that is at most the size of the
buffer. -/
theorem exact_position_sum (len fPos : Nat) (off whence target : Int) (length : len ≤ bufSize)
    (position : fPos ≤ bufSize) (asked : exactPosition len fPos off whence = some target) :
    ∃ base : Nat, base ≤ bufSize ∧ target = base + off := by
  simp only [exactPosition] at asked
  split at asked
  · exact ⟨0, Nat.zero_le _, by simpa using asked.symm⟩
  · split at asked
    · exact ⟨fPos, position, by simpa using asked.symm⟩
    · split at asked
      · exact ⟨len, length, by simpa using asked.symm⟩
      · contradiction

/-- From a state within the bounds, an uninterrupted seek in an open file is exact. -/
theorem llseek_exact (word : Word) (system : System) (file : Nat) (minor : Minor)
    (off : BitVec 64) (whence : Int) (opened : system.privateData file = some minor)
    (length : (system.devices minor).len ≤ bufSize) (position : system.positions file ≤ bufSize) :
    step word system (.llseek file off whence false) =
      exactSeek system file minor off whence := by
  have unmoved : ({ system with
      positions := Function.update system.positions file (system.positions file) } : System) =
        system := by
    rw [Function.update_eq_self]
  simp only [step, mydevLlseek, opened, underLock_some, new_position_exact, exactSeek]
  cases asked : exactPosition (system.devices minor).len (system.positions file) off.toInt
      whence with
  | none => simp only [Option.map_none, unmoved]
  | some target =>
    obtain ⟨base, small, rfl⟩ := exact_position_sum _ _ _ _ _ length position asked
    obtain ⟨refusal, exact⟩ := wrapped_sum base off small
    simp only [Option.map_some]
    by_cases inside : 0 ≤ base + off.toInt ∧ base + off.toInt ≤ bufSize
    · have accepted := fun refused => refusal.mp refused inside
      rw [if_pos inside, if_neg accepted, exact accepted]
    · rw [if_neg inside, if_pos (refusal.mpr inside), unmoved]

/-- In every state after every run from loading, on both kernels, a seek in an open file is
exact: it sets and returns the exact sum if that lies in the buffer or at its end, and is
refused otherwise, or if its `whence` is unknown. A signal while it waits ends it first. -/
theorem reachable_llseek_exact (word : Word) (memory : Minor → Memory) (calls : List Call)
    (file : Nat) (minor : Minor) (off : BitVec 64) (whence : Int) (interrupted : Bool)
    (opened : (after (step word) (loaded memory) calls).privateData file = some minor) :
    step word (after (step word) (loaded memory) calls) (.llseek file off whence interrupted) =
      if interrupted then (after (step word) (loaded memory) calls, ⟨-erestartsys, []⟩)
      else exactSeek (after (step word) (loaded memory) calls) file minor off whence := by
  obtain ⟨bounded, positioned⟩ := positioned_after word memory calls
  cases interrupted with
  | true =>
    simp only [step, mydevLlseek, opened, underLock_interrupted, Function.update_eq_self, if_true]
  | false =>
    rw [if_neg Bool.false_ne_true]
    exact llseek_exact word _ file minor off whence opened (bounded minor) (positioned file)

/-- After a file has been opened, a seek past the buffer in it is the exact one. -/
theorem seek_past_refused :
    (after (step .bits64) (loaded fun _ _ => 0) [.openFile 0 firstMinor]).privateData 0 =
        some firstMinor ∧
      step .bits64 (after (step .bits64) (loaded fun _ _ => 0) [.openFile 0 firstMinor])
          (.llseek 0 1025 seekSet false) =
        exactSeek (after (step .bits64) (loaded fun _ _ => 0) [.openFile 0 firstMinor]) 0
          firstMinor 1025 seekSet := by
  have opened : (after (step .bits64) (loaded fun _ _ => 0)
      [.openFile 0 firstMinor]).privateData 0 = some firstMinor := by decide
  have exact := reachable_llseek_exact .bits64 (fun _ _ => 0) [.openFile 0 firstMinor] 0
    firstMinor 1025 seekSet false opened
  exact ⟨opened, exact⟩

end LddExamples.SeekLimits
