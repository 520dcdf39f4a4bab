import LddExamples.MultiReaderDevice
import Mathlib.Data.List.Dedup

/-!
# Who receives a message of the multi-reader device

A whole read is one step here, so nobody reads a message whose flag is down. The
device still counts reads and not readers, and does not see that a failed write has
changed the message under the flag. The flag goes down after as many reads as a
message is meant for, and that many processes have received this message only if
none of them has read it twice and it was the same message each time.
-/

namespace LddExamples.MessageReaders

open Runs KernelInterface MultiReaderDevice

/-- Whole reads and whole writes. -/
inductive Call where
  | read (process : Nat) (signal : Bool) (room : Nat)
  | write (source : UserSource) (len : Nat)

/-- One call. -/
def step (device : Device) : Call → Device × Reply
  | .read _ signal room => myRead device signal room
  | .write source len => myWrite device source len

/-- What a process has been returned. -/
structure Delivery where
  process : Nat
  message : List UInt8
deriving DecidableEq

/-- The successful reads since the last successful write, once one more call has
been made. -/
def addDelivery (delivered : List Delivery) (event : Event Device Call) : List Delivery :=
  if 0 ≤ (event.reply step).ret then
    match event.call with
    | .read process _ _ => delivered ++ [⟨process, (event.reply step).data⟩]
    | .write _ _ => []
  else delivered

/-- The deliveries at the end of a history, in order. -/
def deliveries (history : List (Event Device Call)) : List Delivery :=
  history.foldl addDelivery []

/-- One more call. -/
theorem deliveries_append (history : List (Event Device Call)) (event : Event Device Call) :
    deliveries (history ++ [event]) = addDelivery (deliveries history) event :=
  List.foldl_append

/-- The different processes that the message has been returned to. -/
def readersOf (message : List UInt8) (delivered : List Delivery) : List Nat :=
  ((delivered.filter (fun delivery => decide (delivery.message = message))).map
    Delivery.process).dedup

/-- A call that takes the flag down leaves the message with as many different readers
as it is meant for. -/
def ServesAll (history : List (Event Device Call)) (event : Event Device Call) : Prop :=
  event.before.dataReady = 1 → (event.left step).dataReady = 0 →
    totalReaders ≤
      (readersOf (cString event.before.data) (deliveries (history ++ [event]))).length

/-- A read that will return the message is by a process that has not read it yet, and
those who have were returned the same. -/
def Fresh (history : List (Event Device Call)) (event : Event Device Call) : Prop :=
  match event.call with
  | .read process _ room =>
      event.before.dataReady ≠ 0 → Fits event.before room →
        ∀ delivery ∈ deliveries history,
          delivery.process ≠ process ∧ delivery.message = cString event.before.data
  | .write _ _ => True

/-- Two deliveries reach two readers of the message exactly when they are of that
message and to different processes. -/
theorem two_readers_iff (message : List UInt8) (first : Delivery) (process : Nat) :
    totalReaders ≤ (readersOf message [first, ⟨process, message⟩]).length ↔
      first.process ≠ process ∧ first.message = message := by
  by_cases same : first.message = message
  · by_cases itself : first.process = process
    · simp [readersOf, same, itself, totalReaders]
    · simp [readersOf, same, itself, totalReaders]
  · simp [readersOf, same, totalReaders]

/-- The flag is zero or one. While it is up, the device has counted the reads of the
message, and there are more to come. -/
structure Numbered (history : List (Event Device Call)) (device : Device) : Prop where
  flag : device.dataReady = 0 ∨ device.dataReady = 1
  count : device.dataReady = 1 → device.readersCount = (deliveries history).length
  more : device.dataReady = 1 → ((deliveries history).length : Int) < totalReaders

/-- A call that fails and leaves the flag and the number of reads keeps the reads
numbered. -/
theorem failure_numbered (history : List (Event Device Call)) (event : Event Device Call)
    (numbered : Numbered history event.before) (failed : (event.reply step).ret < 0)
    (ready : (event.left step).dataReady = event.before.dataReady)
    (count : (event.left step).readersCount = event.before.readersCount) :
    Numbered (history ++ [event]) (event.left step) := by
  have same : deliveries (history ++ [event]) = deliveries history := by
    rw [deliveries_append]
    exact if_neg (Int.not_le.mpr failed)
  refine ⟨?_, ?_, ?_⟩
  · rw [ready]
    exact numbered.flag
  · rw [ready, count, same]
    exact numbered.count
  · rw [ready, same]
    exact numbered.more

/-- The deliveries after a read that returns the message. -/
theorem deliveries_after_read (history : List (Event Device Call)) (device : Device)
    (process room : Nat) (signal : Bool) (up : device.dataReady ≠ 0)
    (fits : Fits device room) :
    deliveries (history ++ [⟨device, .read process signal room⟩]) =
      deliveries history ++ [⟨process, cString device.data⟩] := by
  obtain ⟨-, returned, data⟩ := read_rest_delivers device room fits
  have rest : myRead device signal room = readRest device room :=
    my_read_ready device signal room up
  rw [deliveries_append]
  simp only [addDelivery, Event.reply, step, rest, data, if_pos returned]

/-- A read keeps the reads numbered: it fails, is counted, or is the last and takes
the flag down. -/
theorem read_numbered (history : List (Event Device Call)) (device : Device)
    (numbered : Numbered history device) (process room : Nat) (signal : Bool) :
    Numbered (history ++ [⟨device, .read process signal room⟩])
      (myRead device signal room).1 := by
  by_cases down : device.dataReady = 0
  · obtain ⟨same, failed⟩ := my_read_waits device signal room down
    exact failure_numbered history ⟨device, .read process signal room⟩ numbered failed
      (congrArg Device.dataReady same) (congrArg Device.readersCount same)
  · have rest := my_read_ready device signal room down
    by_cases fits : Fits device room
    · have up : device.dataReady = 1 := numbered.flag.resolve_left down
      have counted := numbered.count up
      have more := numbered.more up
      have delivered := deliveries_after_read history device process room signal down fits
      rw [rest, (read_rest_delivers device room fits).1]
      by_cases last : totalReaders ≤ device.readersCount + 1
      · rw [if_pos last]
        exact ⟨Or.inl rfl, fun flag => absurd flag Int.zero_ne_one,
          fun flag => absurd flag Int.zero_ne_one⟩
      · rw [if_neg last]
        refine ⟨Or.inr up, fun _ => ?_, fun _ => ?_⟩
        · rw [delivered, List.length_append, counted]
          rfl
        · rw [delivered, List.length_append, List.length_singleton, Int.natCast_add, ← counted]
          exact Int.not_le.mp last
    · obtain ⟨same, failed⟩ := read_rest_fails device room fits
      rw [← rest] at same failed
      have negative : (myRead device signal room).2.ret < 0 := by
        rw [failed]
        decide
      exact failure_numbered history ⟨device, .read process signal room⟩ numbered negative
        (congrArg Device.dataReady same) (congrArg Device.readersCount same)

/-- A write keeps the reads numbered: it fails, or starts over. -/
theorem write_numbered (history : List (Event Device Call)) (device : Device)
    (numbered : Numbered history device) (source : UserSource) (len : Nat) :
    Numbered (history ++ [⟨device, .write source len⟩]) (myWrite device source len).1 := by
  rcases my_write_cases device source len with ⟨failed, ready, count⟩ | ⟨written, ready, count⟩
  · exact failure_numbered history ⟨device, .write source len⟩ numbered failed ready count
  · have none : deliveries (history ++ [⟨device, .write source len⟩]) = [] := by
      rw [deliveries_append]
      exact if_pos written
    refine ⟨Or.inr ready, fun _ => ?_, fun _ => ?_⟩
    · rw [none, count]
      rfl
    · rw [none]
      decide

/-- A write never takes the flag down. -/
theorem write_serves_all (history : List (Event Device Call)) (device : Device)
    (source : UserSource) (len : Nat) : ServesAll history ⟨device, .write source len⟩ := by
  intro up down
  have after : (myWrite device source len).1.dataReady = 0 := down
  rcases my_write_cases device source len with ⟨-, ready, -⟩ | ⟨-, ready, -⟩
  · rw [ready, up] at after
    exact absurd after Int.one_ne_zero
  · rw [ready] at after
    exact absurd after Int.one_ne_zero

/-- A read serves all the readers of the message that it takes the flag down for
exactly when it is fresh.

Proof: the first read of a message is fresh and leaves the flag up. The last one
comes after one delivery, and serves all when both are of the same message and to
different processes. -/
theorem read_serves_all_iff (history : List (Event Device Call)) (device : Device)
    (numbered : Numbered history device) (process room : Nat) (signal : Bool) :
    ServesAll history ⟨device, .read process signal room⟩ ↔
      Fresh history ⟨device, .read process signal room⟩ := by
  simp only [ServesAll, Fresh, Event.left, step]
  by_cases down : device.dataReady = 0
  · simp [down]
  have up : device.dataReady = 1 := numbered.flag.resolve_left down
  have rest := my_read_ready device signal room down
  by_cases fits : Fits device room
  · have counted := numbered.count up
    have more := numbered.more up
    rw [deliveries_after_read history device process room signal down fits, rest,
      (read_rest_delivers device room fits).1]
    by_cases last : totalReaders ≤ device.readersCount + 1
    · obtain ⟨first, only⟩ : ∃ first, deliveries history = [first] := by
        apply List.length_eq_one_iff.mp
        simp only [totalReaders] at more last
        omega
      rw [if_pos last, only]
      have exact := two_readers_iff (cString device.data) first process
      simp only [List.mem_singleton, forall_eq]
      constructor
      · exact fun serves _ _ => exact.mp (serves up trivial)
      · exact fun fresh _ _ => exact.mpr (fresh down fits)
    · have none : deliveries history = [] := by
        apply List.length_eq_zero_iff.mp
        simp only [totalReaders] at last
        omega
      rw [if_neg last, none]
      constructor
      · exact fun _ _ _ delivery member => absurd member List.not_mem_nil
      · exact fun _ _ flag => absurd flag down
  · rw [rest, (read_rest_fails device room fits).1]
    constructor
    · exact fun _ _ fit => absurd fit fits
    · exact fun _ _ flag => absurd flag down

/-- In every run, each time the flag goes down the message has been returned to as
many different processes as it is meant for, exactly when every read that returns a
message is by a process that has not read it yet, and returns what the others were
returned. -/
theorem flag_serves_all_iff (calls : List Call) :
    AtEachCall step loaded calls ServesAll ↔ AtEachCall step loaded calls Fresh := by
  have initially : Numbered [] loaded :=
    ⟨Or.inl rfl, fun flag => absurd flag Int.zero_ne_one, fun flag => absurd flag Int.zero_ne_one⟩
  refine at_each_call_congr step Numbered ServesAll Fresh ?_ ?_ loaded calls initially
  · rintro history ⟨device, call⟩ numbered
    cases call with
    | read process signal room => exact read_numbered history device numbered process room signal
    | write source len => exact write_numbered history device numbered source len
  · rintro history ⟨device, call⟩ numbered
    cases call with
    | read process signal room =>
      exact read_serves_all_iff history device numbered process room signal
    | write source len => exact iff_of_true (write_serves_all history device source len) trivial

/-- One process reads a message twice. -/
def eagerReader : List Call := [.write ⟨[97], false⟩ 1, .read 0 false 1, .read 0 false 1]

/-- Both reads are counted, the flag goes down, and another process that asks for the
message is left without it. -/
theorem eager_reader_takes_all :
    (after step loaded eagerReader).dataReady = 0 ∧
      (step (after step loaded eagerReader) (.read 1 false 1)).2.ret = -etimedout ∧
      ¬ AtEachCall step loaded eagerReader ServesAll := by
  refine ⟨by decide, by decide, fun serves => ?_⟩
  have all := serves [.write ⟨[97], false⟩ 1, .read 0 false 1] (.read 0 false 1)
    List.prefix_rfl (by decide) (by decide)
  exact absurd all (by decide)

end LddExamples.MessageReaders
