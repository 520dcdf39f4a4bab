import LddExamples.MultiMinorDevice

/-!
# Storing a long input through the data attribute

A store keeps at most the size of the buffer and reports how much it kept. It has no
offset: each call stores at the beginning of the buffer. A caller that writes an input in
the usual way, going on after a short count with what remains, gets to its end. What it
has stored there is the part that the last call was given.
-/

namespace LddExamples.DataStoreLoop

open ByteWindows KernelInterface MultiMinorDevice

/-- The content of a device. -/
def content (d : MydevDevice) : List UInt8 := load d.buf 0 d.len

/-- The caller's loop: a call with the remaining bytes, at most a page of them, and on with
what the returned count leaves, until nothing remains. None: out of turns. -/
def storeLoop : Nat → Devices → Minor → List UInt8 → Option Devices
  | 0, _, _, _ => none
  | turns + 1, devices, minor, input =>
      let (devices, ret) := dataStore devices (some minor) (input.take pageSize) false
      let rest := input.drop ret.toNat
      if rest.isEmpty then some devices else storeLoop turns devices minor rest

/-- The part of the input that the last call of the loop is given. -/
def lastPart (input : List UInt8) : List UInt8 :=
  input.drop ((input.length - 1) / bufSize * bufSize)

/-- A call of the loop stores the beginning of its input, and returns its length. -/
theorem data_store_turn (devices : Devices) (minor : Minor) (input : List UInt8) :
    content ((dataStore devices (some minor) (input.take pageSize) false).1 minor) =
        input.take bufSize ∧
      (dataStore devices (some minor) (input.take pageSize) false).2 =
        (min bufSize input.length : Nat) := by
  have count : (if bufSize < (input.take pageSize).length then bufSize
      else (input.take pageSize).length) = (input.take bufSize).length := by
    simp only [bufSize, pageSize, List.length_take]
    split <;> omega
  have kept : (input.take pageSize).take (input.take bufSize).length = input.take bufSize := by
    rw [List.take_take, List.length_take, List.take_eq_take_iff]
    simp only [bufSize, pageSize]
    omega
  simp only [dataStore, underLock_some, count, kept, content, Function.update_self]
  exact ⟨load_store_same _ 0 _, by rw [List.length_take]⟩

/-- An input that fits is its own last part. -/
theorem last_part_short (input : List UInt8) (short : input.length ≤ bufSize) :
    lastPart input = input := by
  simp only [bufSize] at short
  have first : (input.length - 1) / bufSize * bufSize = 0 := by
    simp only [bufSize]
    omega
  rw [lastPart, first, List.drop_zero]

/-- The last part of a longer input is that of what remains after one call. -/
theorem last_part_drop (input : List UInt8) (long : bufSize < input.length) :
    lastPart (input.drop bufSize) = lastPart input := by
  simp only [bufSize] at long
  rw [lastPart, lastPart, List.drop_drop, List.length_drop]
  congr 1
  simp only [bufSize]
  omega

/-- The loop ends, and the content of the device is then the last part of the input. -/
theorem store_loop_last_part (devices : Devices) (minor : Minor) (input : List UInt8) :
    ∃ final, (∀ turns, input.length < turns → storeLoop turns devices minor input = some final) ∧
      content (final minor) = lastPart input := by
  generalize size : input.length = length
  induction length using Nat.strong_induction_on generalizing devices input with
  | _ length shorter =>
    obtain ⟨stored, returned⟩ := data_store_turn devices minor input
    -- The devices after one call, from which the loop goes on.
    generalize called : dataStore devices (some minor) (input.take pageSize) false = reply
      at stored returned
    by_cases short : input.length ≤ bufSize
    · refine ⟨reply.1, fun turns enough => ?_, ?_⟩
      · obtain ⟨further, rfl⟩ := Nat.exists_eq_add_of_lt enough
        have spent : input.drop reply.2.toNat = [] := by
          rw [returned, Int.toNat_natCast, Nat.min_eq_right short, List.drop_length]
        simp only [storeLoop, called, spent, List.isEmpty_nil, if_true]
      · rw [stored, last_part_short input short, List.take_of_length_le short]
    · have long := Nat.lt_of_not_le short
      have rest : input.drop reply.2.toNat = input.drop bufSize := by
        rw [returned, Int.toNat_natCast, Nat.min_eq_left (Nat.le_of_lt long)]
      have fewer : (input.drop bufSize).length < length := by
        simp only [bufSize] at long
        simp only [bufSize, List.length_drop]
        omega
      obtain ⟨final, ends, last⟩ := shorter _ fewer reply.1 (input.drop bufSize) rfl
      refine ⟨final, fun turns enough => ?_, ?_⟩
      · obtain ⟨further, rfl⟩ := Nat.exists_eq_add_of_lt enough
        have remains : (input.drop bufSize).isEmpty = false := by
          rw [List.isEmpty_eq_false_iff, ne_eq, List.drop_eq_nil_iff]
          exact short
        simp only [storeLoop, called, rest, remains, Bool.false_eq_true, if_false]
        exact ends (length + further) (by omega)
      · rw [last, last_part_drop input long]

/-- The last part of an input is its beginning exactly if the input fits, or fills the buffer
a whole number of times and ends as it begins. -/
theorem last_part_eq_take_iff (input : List UInt8) :
    lastPart input = input.take bufSize ↔
      input.length ≤ bufSize ∨
        (bufSize ∣ input.length ∧
          input.drop (input.length - bufSize) = input.take bufSize) := by
  by_cases short : input.length ≤ bufSize
  · refine iff_of_true ?_ (Or.inl short)
    rw [last_part_short input short, List.take_of_length_le short]
  · simp only [short, false_or]
    by_cases whole : bufSize ∣ input.length
    · have start : (input.length - 1) / bufSize * bufSize = input.length - bufSize := by
        simp only [bufSize] at short whole ⊢
        omega
      rw [lastPart, start, and_iff_right whole]
    · refine iff_of_false (fun same => ?_) (fun both => whole both.1)
      have lengths := congrArg List.length same
      simp only [lastPart, List.length_drop, List.length_take, bufSize] at lengths short whole
      omega

/-- The caller's loop ends for every input, and the content of the device is then the
beginning of the input exactly if the input fits in the buffer, or fills it a whole number
of times and ends as it begins. -/
theorem store_loop_beginning_iff (devices : Devices) (minor : Minor) (input : List UInt8) :
    ∃ final, (∀ turns, input.length < turns → storeLoop turns devices minor input = some final) ∧
      (content (final minor) = input.take bufSize ↔
        input.length ≤ bufSize ∨
          (bufSize ∣ input.length ∧
            input.drop (input.length - bufSize) = input.take bufSize)) := by
  obtain ⟨final, ends, last⟩ := store_loop_last_part devices minor input
  refine ⟨final, ends, ?_⟩
  rw [last]
  exact last_part_eq_take_iff input

/-- One byte more than the buffer holds. -/
def oneMore : List UInt8 := List.replicate bufSize 97 ++ [98]

/-- The loop ends with the last byte alone as the content. -/
theorem last_byte_stored :
    ∃ final, (∀ turns, oneMore.length < turns →
        storeLoop turns (mydevInit fun _ _ => 0) firstMinor oneMore = some final) ∧
      content (final firstMinor) = [98] ∧ content (final firstMinor) ≠ oneMore.take bufSize := by
  obtain ⟨final, ends, last⟩ := store_loop_last_part (mydevInit fun _ _ => 0) firstMinor oneMore
  have size : oneMore.length = bufSize + 1 := by
    rw [oneMore, List.length_append, List.length_replicate, List.length_singleton]
  have byte : lastPart oneMore = [98] := by
    have start : (oneMore.length - 1) / bufSize * bufSize = bufSize := by
      rw [size]
      decide
    rw [lastPart, start, oneMore, List.drop_append, List.length_replicate, Nat.sub_self,
      List.drop_zero, List.drop_eq_nil_of_le (List.length_replicate ▸ le_rfl), List.nil_append]
  refine ⟨final, ends, last.trans byte, fun same => ?_⟩
  have lengths := congrArg List.length ((last.trans byte).symm.trans same)
  rw [List.length_take, size] at lengths
  exact absurd lengths (by decide)

end LddExamples.DataStoreLoop
