import LddExamples.DualPoll

/-!
# Readiness that poll reports

`my_poll` looks at the event flag of the minor alone; a non-blocking read also
needs its own position to lie before the end of the message. The two agree on a
file exactly when a set flag means that the file has something left to read.

Only two kinds of call can break the agreement: a write, which sets the flag for
every file of the minor but moves no position except its own, and a seek. An
empty message breaks it for every file.
-/

namespace LddExamples.PollReadiness

open Runs ByteWindows KernelInterface DualPoll

/-- The reply to a poll reports input. -/
def ReportsInput (reply : Option Reply) : Prop :=
  ∃ mask, reply = some mask ∧ mask.ret.toNat &&& pollIn ≠ 0

/-- The reply to a read is a positive number of bytes. -/
def ReturnsBytes (reply : Option Reply) : Prop := ∃ told, reply = some told ∧ 0 < told.ret

/-- A poll of the file reports input exactly when a read right after it, of any
positive length into a valid buffer, returns bytes. -/
def PollAgrees (files : Files) (system : System) (file : Nat) : Prop :=
  ∀ len room, 0 < len → len ≤ room →
    (ReportsInput (step files system (.poll file)).2 ↔
      ReturnsBytes (step files (step files system (.poll file)).1
        (.read file .current len room false)).2)

/-- A poll reports input exactly when the event flag is set. -/
theorem reports_input_iff (files : Files) (system : System) (file : Nat) :
    ReportsInput (step files system (.poll file)).2 ↔
      (system.devices (files.minor file)).eventFlag = true := by
  constructor
  · rintro ⟨mask, same, reported⟩
    rw [← Option.some.inj same] at reported
    by_contra clear
    simp only [myPoll, Bool.eq_false_iff.mpr clear, Bool.false_eq_true, if_false] at reported
    exact reported rfl
  · intro flag
    exact ⟨_, rfl, by simp only [myPoll, flag, if_true]; decide⟩

/-- A non-blocking read of a positive length returns bytes exactly when the flag
is set and the file has something left to read. -/
theorem returns_bytes_iff (files : Files) (system : System) (file len room : Nat)
    (nonblock : files.nonblock file = true) (admitted : system.positions file < loffLimit)
    (requested : 0 < len) (valid : len ≤ room) :
    ReturnsBytes (step files system (.read file .current len room false)).2 ↔
      (system.devices (files.minor file)).eventFlag = true ∧
        system.positions file < (system.devices (files.minor file)).bufferSize := by
  have proceeds : ¬ loffLimit ≤ system.positions file := Nat.not_le_of_lt admitted
  have positive : 0 < min len maxRwCount := Nat.lt_min.mpr ⟨requested, by decide⟩
  have roomy : min len maxRwCount ≤ room := Nat.le_trans (Nat.min_le_left _ _) valid
  cases flag : (system.devices (files.minor file)).eventFlag with
  | false =>
    simp only [step, Place.offset, if_neg proceeds, myRead, myReadEntry, flag, nonblock, if_true,
      Bool.false_eq_true, if_false, false_and, iff_false]
    rintro ⟨told, same, bytes⟩
    rw [← Option.some.inj same] at bytes
    exact absurd bytes (by decide)
  | true =>
    simp only [step, Place.offset, if_neg proceeds, myRead, myReadEntry, flag, if_true, true_and,
      myReadRest]
    by_cases inside : system.positions file < (system.devices (files.minor file)).bufferSize
    · rw [simple_read_served _ _ _ _ _ inside positive roomy]
      refine iff_of_true ⟨_, rfl, ?_⟩ inside
      simp only
      omega
    · have ended : (system.devices (files.minor file)).bufferSize ≤ system.positions file ∨
          min len maxRwCount = 0 := Or.inl (Nat.le_of_not_lt inside)
      simp only [simpleReadFromBuffer, if_pos ended, inside, iff_false]
      rintro ⟨told, same, bytes⟩
      rw [← Option.some.inj same] at bytes
      exact absurd bytes (by decide)

/-- A set flag leaves the file something to read. -/
def Unread (files : Files) (system : System) (file : Nat) : Prop :=
  (system.devices (files.minor file)).eventFlag = true →
    system.positions file < (system.devices (files.minor file)).bufferSize

/-- Poll and read agree on a non-blocking file exactly when a set flag leaves it
something to read. -/
theorem poll_agrees_iff (files : Files) (system : System) (file : Nat)
    (nonblock : files.nonblock file = true) (admitted : system.positions file < loffLimit) :
    PollAgrees files system file ↔ Unread files system file := by
  constructor
  · intro agrees flag
    have read := (agrees 1 1 Nat.one_pos (Nat.le_refl 1)).mp
      ((reports_input_iff files system file).mpr flag)
    exact ((returns_bytes_iff files system file 1 1 nonblock admitted Nat.one_pos
      (Nat.le_refl 1)).mp read).2
  · intro unread len room requested valid
    rw [reports_input_iff]
    have served := returns_bytes_iff files system file len room nonblock admitted requested valid
    exact ⟨fun flag => served.mpr ⟨flag, unread flag⟩, fun read => (served.mp read).1⟩

/-- The condition that carries agreement over a call. A write that delivers a
message must leave every non-blocking file of its minor, itself moved to the
start when it writes at its own position, before the end of that message; a seek
of a non-blocking file must stay before the end of a pending message. -/
def KeepsAgreement (files : Files) (event : Event System Call) : Prop :=
  match event.call with
  | .write writer place len source =>
      Delivers event.before writer place len source →
        ∀ file, files.nonblock file = true → files.minor file = files.minor writer →
          place.commit event.before.positions writer 0 file < min (min len maxRwCount) bufSize
  | .seek file position =>
      files.nonblock file = true → position < loffLimit →
        (event.before.devices (files.minor file)).eventFlag = true →
          position < (event.before.devices (files.minor file)).bufferSize
  | .poll _ | .read .. => True

/-- Every non-blocking file that has its flag set has something to read. -/
def AllUnread (files : Files) (system : System) : Prop :=
  ∀ file, files.nonblock file = true → Unread files system file

/-- A read leaves no file with a set flag and nothing to read: it clears the flag
when it reaches the end, and moves no other file. -/
theorem read_keeps_unread (files : Files) (system : System) (reader : Nat) (place : Place)
    (len room : Nat) (signalled : Bool) (unread : AllUnread files system) :
    AllUnread files (step files system (.read reader place len room signalled)).1 := by
  rcases read_call_cases files system reader place len room signalled with
    same | ⟨_, _, left⟩
  · rw [same]
    exact unread
  · rw [left]
    intro file nonblock
    simp only [Unread]
    by_cases sameMinor : files.minor file = files.minor reader
    · have still := unread file nonblock
      rw [Unread, sameMinor] at still
      rw [sameMinor, Function.update_self]
      rcases read_rest_cases (system.devices (files.minor reader)) (min len maxRwCount) room
          (place.offset system.positions reader) with ⟨same, before⟩ | ⟨consumed, _⟩
      · rw [same]
        intro flag
        by_cases sameFile : file = reader
        · cases place with
          | current => simpa only [sameFile, Place.commit, Function.update_self] using before
          | fixed position => exact still flag
        · rw [Place.commit_other _ _ _ _ _ sameFile]
          exact still flag
      · rw [consumed]
        exact fun flag => Bool.noConfusion flag
    · have sameFile : file ≠ reader := fun same => sameMinor (congrArg files.minor same)
      rw [Function.update_of_ne sameMinor, Place.commit_other _ _ _ _ _ sameFile]
      exact unread file nonblock

/-- A write keeps every file unread exactly under its condition. -/
theorem write_keeps_unread_iff (files : Files) (system : System) (writer : Nat) (place : Place)
    (len : Nat) (source : UserSource) (unread : AllUnread files system) :
    AllUnread files (step files system (.write writer place len source)).1 ↔
      KeepsAgreement files ⟨system, .write writer place len source⟩ := by
  by_cases delivers : Delivers system writer place len source
  · rw [write_call_delivers files system writer place len source delivers]
    constructor
    · intro all _ file nonblock sameMinor
      have one := all file nonblock
      simp only [Unread, sameMinor, Function.update_self] at one
      exact one trivial
    · intro keeps file nonblock
      simp only [Unread]
      by_cases sameMinor : files.minor file = files.minor writer
      · rw [sameMinor, Function.update_self]
        exact fun _ => keeps delivers file nonblock sameMinor
      · have sameFile : file ≠ writer := fun same => sameMinor (congrArg files.minor same)
        rw [Function.update_of_ne sameMinor, Place.commit_other _ _ _ _ _ sameFile]
        exact unread file nonblock
  · obtain ⟨buffer, ret, left, _⟩ := write_call_fails files system writer place len source delivers
    refine iff_of_true ?_ (fun delivered => absurd delivered delivers)
    rw [left]
    intro file nonblock
    have still := unread file nonblock
    by_cases sameMinor : files.minor file = files.minor writer
    · simp only [Unread, sameMinor, Function.update_self] at still ⊢
      exact still
    · simp only [Unread, Function.update_of_ne sameMinor]
      exact still

/-- A seek keeps every file unread exactly under its condition. -/
theorem seek_keeps_unread_iff (files : Files) (system : System) (sought position : Nat)
    (unread : AllUnread files system) :
    AllUnread files (step files system (.seek sought position)).1 ↔
      KeepsAgreement files ⟨system, .seek sought position⟩ := by
  by_cases refused : loffLimit ≤ position
  · refine iff_of_true ?_ (fun _ admitted => absurd admitted (Nat.not_lt_of_le refused))
    simp only [step, if_pos refused]
    exact unread
  · simp only [step, if_neg refused]
    constructor
    · intro all nonblock _ flag
      have one := all sought nonblock flag
      simpa only [Function.update_self] using one
    · intro keeps file nonblock flag
      by_cases sameFile : file = sought
      · subst sameFile
        simp only [Function.update_self]
        exact keeps nonblock (Nat.lt_of_not_le refused) flag
      · simp only [Function.update_of_ne sameFile]
        exact unread file nonblock flag

/-- Over one call that starts with every file unread, the files stay unread
exactly under the call's condition. -/
theorem unread_step_iff (files : Files) (event : Event System Call)
    (unread : AllUnread files event.before) :
    AllUnread files (event.left (step files)) ↔ KeepsAgreement files event := by
  obtain ⟨system, call⟩ := event
  cases call with
  | poll file => exact iff_of_true unread trivial
  | read file place len room signalled =>
    exact iff_of_true (read_keeps_unread files system file place len room signalled unread) trivial
  | write file place len source =>
    exact write_keeps_unread_iff files system file place len source unread
  | seek file position => exact seek_keeps_unread_iff files system file position unread

/-- Poll and read agree on every non-blocking file in every state of a run from
loading exactly when each call of the run meets its condition.

Proof: in a well formed state, agreement on all files is that every file is
unread; the condition is what one call needs to keep that. The loaded devices
have no event, so the run starts unread. -/
theorem agreement_iff (files : Files) (calls : List Call) :
    (∀ earlier, earlier <+: calls → ∀ file, files.nonblock file = true →
      PollAgrees files (after (step files) loaded earlier) file) ↔
      ∀ event ∈ trace (step files) loaded calls, KeepsAgreement files event := by
  rw [← throughout_iff (step files) (fun _ => True) (AllUnread files) (KeepsAgreement files)
    (fun _ _ _ => trivial) (fun event _ unread => unread_step_iff files event unread) loaded calls
    trivial (fun _ _ flag => Bool.noConfusion flag)]
  constructor
  · intro agree earlier isPrefix file nonblock
    exact (poll_agrees_iff files _ file nonblock
      ((wellformed_after files earlier).placed file)).mp (agree earlier isPrefix file nonblock)
  · intro unread earlier isPrefix file nonblock
    exact (poll_agrees_iff files _ file nonblock
      ((wellformed_after files earlier).placed file)).mpr (unread earlier isPrefix file nonblock)

/-- Files of the first minor, of which every one is non-blocking. -/
def pollers : Files := ⟨fun _ => firstMinor, fun _ => true⟩

/-- After a write of the byte `A` by one file, a read of it by another, and a write
of the byte `B` by the first, a poll of the reader reports input, and its read
returns nothing. -/
theorem second_event_unreadable :
    ¬ PollAgrees pollers (after (step pollers) loaded
      [.write 1 .current 1 (.ofBytes [65]), .read 0 .current 1 1 false,
        .write 1 .current 1 (.ofBytes [66])]) 0 := by
  intro agrees
  obtain ⟨told, same, positive⟩ := (agrees 1 1 (by decide) (by decide)).mp ⟨_, rfl, by decide⟩
  have empty : told = ⟨0, []⟩ := (Option.some.inj same).symm
  rw [empty] at positive
  exact absurd positive (by decide)

end LddExamples.PollReadiness
