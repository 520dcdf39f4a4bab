import LddExamples.MultiReaderDevice

/-!
# How many reads return a message of the multi-reader device

The wait of a read and the rest of it are separate steps, and any processes take them
in any order. All waiting readers are woken together and none of them looks at the
flag again, so a read that resumes when the flag is already down returns the message
all the same. That is the only way in which a message gets more reads than it is
meant for.
-/

namespace LddExamples.MessageReads

open Runs KernelInterface MultiReaderDevice

/-- The device, and which processes have passed the wait of a read. -/
structure System where
  device : Device
  admitted : Nat → Bool

/-- The two steps of a read, and whole writes. -/
inductive Call where
  /-- The wait of a read, ended by the flag or without it. -/
  | wait (process : Nat) (signal : Bool)
  /-- The rest of a read. -/
  | finish (process : Nat) (room : Nat)
  | write (source : UserSource) (len : Nat)

/-- One step. A call that goes on, and a step that is not enabled, have no reply. -/
def step (system : System) : Call → System × Option Reply
  | .wait process signal =>
      if system.admitted process then (system, none)
      else
        match waitEvent system.device signal with
        | some error => (system, some ⟨error, []⟩)
        | none => ({ system with admitted := Function.update system.admitted process true }, none)
  | .finish process room =>
      if system.admitted process then
        let (device, reply) := readRest system.device room
        (⟨device, Function.update system.admitted process false⟩, some reply)
      else (system, none)
  | .write source len =>
      let (device, reply) := myWrite system.device source len
      ({ system with device := device }, some reply)

/-- The loaded device, with no read under way. -/
def start : System := ⟨MultiReaderDevice.loaded, fun _ => false⟩

/-- The number of successful reads since the last successful write, once one more
step has been made. -/
def countReads (reads : Nat) (event : Event System Call) : Nat :=
  match event.call, event.reply step with
  | .finish _ _, some reply => if 0 ≤ reply.ret then reads + 1 else reads
  | .write _ _, some reply => if 0 ≤ reply.ret then 0 else reads
  | _, _ => reads

/-- The number at the end of a history. -/
def readsSinceWrite (history : List (Event System Call)) : Nat := history.foldl countReads 0

/-- One more step. -/
theorem reads_since_write_append (history : List (Event System Call))
    (event : Event System Call) :
    readsSinceWrite (history ++ [event]) = countReads (readsSinceWrite history) event :=
  List.foldl_append

/-- No read is between its wait and the rest. -/
def Quiet (system : System) : Prop := ∀ process, system.admitted process = false

/-- The message has had no more successful reads than it is meant for; and when no
read is under way and the flag is down, the device has counted none. -/
def Rationed (history : List (Event System Call)) (system : System) : Prop :=
  (readsSinceWrite history : Int) ≤ totalReaders ∧
    (Quiet system → system.device.dataReady = 0 → system.device.readersCount = 0)

/-- The rest of a read that will deliver the message finds the flag up. -/
def FindsReady (event : Event System Call) : Prop :=
  match event.call with
  | .finish process room =>
      event.before.admitted process = true → Fits event.before.device room →
        event.before.device.dataReady ≠ 0
  | _ => True

/-- While the flag is up, the device has counted the reads of the message, and there
are more to come. While it is down it has counted none, and a read under way has
missed the last. -/
structure Counted (history : List (Event System Call)) (system : System) : Prop where
  ready : system.device.dataReady ≠ 0 →
    system.device.readersCount = readsSinceWrite history ∧
      (readsSinceWrite history : Int) < totalReaders
  spent : system.device.dataReady = 0 →
    system.device.readersCount = 0 ∧ (readsSinceWrite history : Int) ≤ totalReaders
  missed : system.device.dataReady = 0 → ∀ process, system.admitted process = true →
    (readsSinceWrite history : Int) = totalReaders

/-- Counted reads are within the ration. -/
theorem counted_rationed (history : List (Event System Call)) (system : System)
    (counted : Counted history system) : Rationed history system := by
  constructor
  · by_cases down : system.device.dataReady = 0
    · exact (counted.spent down).2
    · exact Int.le_of_lt (counted.ready down).2
  · exact fun _ down => (counted.spent down).1

/-- A step that changes neither the device nor the number of reads, and admits nobody
while the flag is down, keeps the reads counted. -/
theorem counted_unchanged (history : List (Event System Call)) (event : Event System Call)
    (system : System) (counted : Counted history system) (admitted : Nat → Bool)
    (nobody : system.device.dataReady = 0 → ∀ process, admitted process = true →
      system.admitted process = true)
    (same : countReads (readsSinceWrite history) event = readsSinceWrite history) :
    Counted (history ++ [event]) ⟨system.device, admitted⟩ := by
  have reads : readsSinceWrite (history ++ [event]) = readsSinceWrite history := by
    rw [reads_since_write_append, same]
  refine ⟨?_, ?_, ?_⟩
  · rw [reads]
    exact counted.ready
  · rw [reads]
    exact counted.spent
  · rw [reads]
    exact fun down process member => counted.missed down process (nobody down process member)

/-- The end of a wait keeps the reads counted: it admits a process only while the
flag is up. -/
theorem wait_counted (history : List (Event System Call)) (system : System)
    (counted : Counted history system) (process : Nat) (signal : Bool) :
    Counted (history ++ [⟨system, .wait process signal⟩])
      (step system (.wait process signal)).1 := by
  have same : countReads (readsSinceWrite history) ⟨system, .wait process signal⟩ =
      readsSinceWrite history := rfl
  simp only [step]
  split
  · exact counted_unchanged history _ system counted system.admitted (fun _ _ => id) same
  · by_cases down : system.device.dataReady = 0
    · simp only [waitEvent, down, ne_eq, not_true_eq_false, if_false]
      exact counted_unchanged history _ system counted system.admitted (fun _ _ => id) same
    · simp only [waitEvent, ne_eq, down, not_false_eq_true, if_true]
      exact counted_unchanged history _ system counted _ (fun zero => absurd zero down) same

/-- A write keeps the reads counted: it starts over with the flag up, or fails. -/
theorem write_counted (history : List (Event System Call)) (system : System)
    (counted : Counted history system) (source : UserSource) (len : Nat) :
    Counted (history ++ [⟨system, .write source len⟩]) (step system (.write source len)).1 := by
  have reads : readsSinceWrite (history ++ [⟨system, .write source len⟩]) =
      if 0 ≤ (myWrite system.device source len).2.ret then 0 else readsSinceWrite history :=
    reads_since_write_append history _
  rcases my_write_cases system.device source len with
    ⟨failed, ready, count⟩ | ⟨succeeded, ready, count⟩
  · rw [if_neg (Int.not_le.mpr failed)] at reads
    refine ⟨?_, ?_, ?_⟩
    · simp only [step, ready, count, reads]
      exact counted.ready
    · simp only [step, ready, count, reads]
      exact counted.spent
    · simp only [step, ready, reads]
      exact counted.missed
  · rw [if_pos succeeded] at reads
    have up : (step system (.write source len)).1.device.dataReady ≠ 0 := by
      simp only [step, ready]
      decide
    refine ⟨fun _ => ?_, fun down => absurd down up, fun down => absurd down up⟩
    simp only [step, count, reads]
    decide

/-- The reads after the rest of a read that was under way. -/
theorem reads_after_finish (history : List (Event System Call)) (system : System)
    (process room : Nat) (admitted : system.admitted process = true) :
    readsSinceWrite (history ++ [⟨system, .finish process room⟩]) =
      if 0 ≤ (readRest system.device room).2.ret then readsSinceWrite history + 1
      else readsSinceWrite history := by
  rw [reads_since_write_append]
  simp only [countReads, Event.reply, step, if_pos admitted]

/-- The rest of a read keeps the reads counted when it fails, and when it delivers
the message with the flag still up. -/
theorem finish_counted (history : List (Event System Call)) (system : System)
    (counted : Counted history system) (process room : Nat)
    (found : FindsReady ⟨system, .finish process room⟩) :
    Counted (history ++ [⟨system, .finish process room⟩])
      (step system (.finish process room)).1 := by
  by_cases admitted : system.admitted process = true
  · have reads := reads_after_finish history system process room admitted
    have fewer : ∀ other, Function.update system.admitted process false other = true →
        system.admitted other = true := by
      intro other member
      by_cases itself : other = process
      · rw [itself]
        exact admitted
      · rwa [Function.update_of_ne itself] at member
    simp only [step, if_pos admitted]
    by_cases fits : Fits system.device room
    · obtain ⟨device, delivered, -⟩ := read_rest_delivers system.device room fits
      have up : system.device.dataReady ≠ 0 := found admitted fits
      obtain ⟨count, room⟩ := counted.ready up
      rw [if_pos delivered] at reads
      rw [device]
      by_cases last : totalReaders ≤ system.device.readersCount + 1
      · rw [if_pos last]
        rw [count] at last
        refine ⟨fun ready => absurd rfl ready, fun _ => ⟨rfl, ?_⟩, fun _ _ _ => ?_⟩
        · rw [reads]
          omega
        · rw [reads]
          omega
      · rw [if_neg last]
        rw [count] at last
        refine ⟨fun _ => ⟨?_, ?_⟩, fun down => absurd down up, fun down => absurd down up⟩
        · rw [reads, count]
          rfl
        · rw [reads]
          omega
    · obtain ⟨device, failed⟩ := read_rest_fails system.device room fits
      have negative : ¬ 0 ≤ (readRest system.device room).2.ret := by
        rw [failed]
        decide
      rw [device]
      refine counted_unchanged history _ system counted _ (fun _ => fewer) ?_
      rw [← reads_since_write_append, reads, if_neg negative]
  · have same : countReads (readsSinceWrite history) ⟨system, .finish process room⟩ =
        readsSinceWrite history := by
      simp only [countReads, Event.reply, step, if_neg admitted]
    simp only [step, if_neg admitted]
    exact counted_unchanged history _ system counted system.admitted (fun _ _ => id) same

/-- A read that delivers the message after the flag is down is one too many. -/
theorem late_read_exceeds (history : List (Event System Call)) (system : System)
    (counted : Counted history system) (process room : Nat)
    (admitted : system.admitted process = true) (fits : Fits system.device room)
    (down : system.device.dataReady = 0) :
    totalReaders < readsSinceWrite (history ++ [⟨system, .finish process room⟩]) := by
  have delivered := (read_rest_delivers system.device room fits).2.1
  have all := counted.missed down process admitted
  rw [reads_after_finish history system process room admitted, if_pos delivered]
  omega

/-- Every step of a run leaves no more successful reads since the last successful
write than the message is meant for, and no counted read once the flag is down and
no read is under way, exactly when no read that passed the wait finds the flag down
as it delivers. -/
theorem reads_rationed_iff (calls : List Call) :
    AtEachState step start calls Rationed ↔
      ∀ event ∈ trace step start calls, FindsReady event := by
  rw [← at_each_call_iff step start calls FindsReady]
  refine strengthened_throughout_iff step Counted Rationed (fun _ _ => True)
    (fun _ event => FindsReady event) counted_rationed ?_ ?_ start calls ?_
    (fun _ _ _ => trivial)
  · rintro history ⟨system, call⟩ counted - found
    cases call with
    | wait process signal => exact wait_counted history system counted process signal
    | finish process room => exact finish_counted history system counted process room found
    | write source len => exact write_counted history system counted source len
  · rintro history ⟨system, call⟩ counted - rationed
    cases call with
    | wait process signal => trivial
    | finish process room =>
      intro admitted fits down
      have exceeds := late_read_exceeds history system counted process room admitted fits down
      exact absurd rationed.1 (Int.not_le.mpr exceeds)
    | write source len => trivial
  · refine ⟨fun up => absurd rfl up, fun _ => ⟨rfl, by decide⟩, fun _ process member => ?_⟩
    exact absurd member Bool.false_ne_true

/-- Three processes pass the wait for one message before the first of them goes on. -/
def threeReaders : List Call :=
  [.write ⟨[97], false⟩ 1, .wait 0 false, .wait 1 false, .wait 2 false,
    .finish 0 1, .finish 1 1, .finish 2 1]

/-- All three get the message, and the last of them is counted for the next. -/
theorem third_reader_served :
    readsSinceWrite (trace step start threeReaders) = 3 ∧
      (after step start threeReaders).device.dataReady = 0 ∧
      (after step start threeReaders).device.readersCount = 1 ∧
      ¬ AtEachState step start threeReaders Rationed := by
  have three : readsSinceWrite (trace step start threeReaders) = 3 := by decide
  refine ⟨three, by decide, by decide, fun rationed => ?_⟩
  have most := (rationed threeReaders List.prefix_rfl).1
  rw [three] at most
  exact absurd most (by decide)

end LddExamples.MessageReads
