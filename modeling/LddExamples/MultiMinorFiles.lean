import LddExamples.BoundedFiles
import LddExamples.MultiMinorDevice

/-!
# The multi-minor devices as byte files

Each device stands for a byte file of at most 1024 bytes. A write pads the file up
to its position and overlays its data there, storing through sysfs replaces the
file, and resetting empties it. Storing a shorter content leaves the replaced bytes
in the buffer behind it, and a later write past the end takes them into the content
again, where the file has zeros.

The files are those that the calls of a run make, at the positions at which the
driver executes them. User copies are complete, as far as the driver asks for.
-/

namespace LddExamples.MultiMinorFiles

open Runs ByteWindows BoundedFiles KernelInterface MultiMinorDevice

/-- The files after a call. A call without a device, one that a signal ends, and a
write at or past the end of the buffer change none. -/
def referenceStep (files : Minor → ByteFile bufSize) (event : Event System Call) :
    Minor → ByteFile bufSize :=
  match event.call with
  | .write file place count source interrupted =>
      let position := place.offset event.before.positions file
      match event.before.privateData file with
      | none => files
      | some minor =>
          if inside : position < bufSize then
            if interrupted then files
            else
              Function.update files minor
                ((files minor).write position (source.bytes.take (min count maxRwCount)) inside)
          else files
  | .dataStore minor input interrupted =>
      if interrupted then files else Function.update files minor (.replace input)
  | .resetStore minor _ interrupted =>
      if interrupted then files else Function.update files minor .empty
  | _ => files

/-- The files after the calls of a history; all are empty at loading. -/
def reference (history : List (Event System Call)) : Minor → ByteFile bufSize :=
  history.foldl referenceStep (fun _ => .empty)

/-- One more call. -/
theorem reference_append_singleton (history : List (Event System Call))
    (event : Event System Call) :
    reference (history ++ [event]) = referenceStep (reference history) event :=
  List.foldl_append

/-- The user copy of a write that gets to it is complete: as many bytes are fetched as the
driver asks for, which is no more than the rest of the buffer. Of any other write, and of
user memory behind those bytes, nothing is asked. -/
def Copied (event : Event System Call) : Prop :=
  match event.call with
  | .write file place count source interrupted =>
      let position := place.offset event.before.positions file
      ∀ minor, WriteAccepted (event.before.privateData file) position interrupted minor →
        source.uncopied (min (min count maxRwCount) (bufSize - position)) = 0
  | _ => True

/-- A write that gets to its copy starts where the content reaches, or past the end
with only zero bytes between the two. -/
def HoleBlank (event : Event System Call) : Prop :=
  match event.call with
  | .write file place _ _ interrupted =>
      let position := place.offset event.before.positions file
      ∀ minor, WriteAccepted (event.before.privateData file) position interrupted minor →
        ∀ index, (event.before.devices minor).len ≤ index → index < position →
          (event.before.devices minor).buf index = 0
  | _ => True

/-- Every device holds the content of its file. -/
def Represents (devices : Devices) (files : Minor → ByteFile bufSize) : Prop :=
  ∀ minor, load (devices minor).buf 0 (devices minor).len = (files minor).bytes

/-- Every read of a device, at any position and with room for its result, returns
the bytes that the file has there. -/
def ReadsAgree (word : Word) (devices : Devices) (files : Minor → ByteFile bufSize) : Prop :=
  ∀ minor count room position, position < loffLimit → count ≤ room →
    let bytes := (files minor).read position count
    mydevRead word devices (some minor) count room position false =
      ⟨bytes.length, position + bytes.length, bytes⟩

/-- Reads agree with the files exactly when the devices hold their contents. -/
theorem reads_agree_iff (word : Word) (devices : Devices) (files : Minor → ByteFile bufSize)
    (bounded : Bounded devices) : ReadsAgree word devices files ↔ Represents devices files := by
  constructor
  · intro agree minor
    have whole := agree minor bufSize bufSize 0 start_admitted (Nat.le_refl _)
    have all : (files minor).read 0 bufSize = (files minor).bytes :=
      List.take_of_length_le (files minor).bounded
    have served := window_read_success (devices minor).buf (devices minor).len 0 bufSize bufSize
    rw [mydev_read_window word devices minor _ _ _ (bounded minor) start_admitted, all] at whole
    rw [whole] at served
    have data := congrArg Served.data (served (Int.natCast_nonneg _))
    have reach : min bufSize ((devices minor).len - 0) = (devices minor).len :=
      Nat.min_eq_right (bounded minor)
    simp only [reach] at data
    exact data.symm
  · intro represents minor count room position admitted roomy
    have bytes : (files minor).read position count =
        load (devices minor).buf position (min count ((devices minor).len - position)) := by
      rw [ByteFile.read, ← represents minor, drop_load, Nat.zero_add, take_load]
    rw [mydev_read_window word devices minor _ _ _ (bounded minor) admitted]
    simp only [bytes, load_length]
    by_cases past : (devices minor).len ≤ position
    · have nothing : min count ((devices minor).len - position) = 0 := by omega
      rw [windowRead, if_pos past, nothing]
      rfl
    · have whole : (load (devices minor).buf position
          (min count ((devices minor).len - position))).take room =
            load (devices minor).buf position (min count ((devices minor).len - position)) :=
        List.take_of_length_le (by rw [load_length]; omega)
      have missing : min count ((devices minor).len - position) - room = 0 := by omega
      simp only [windowRead, if_neg past, copyToUser, load_length, missing, whole, ne_eq,
        not_true_eq_false, if_false]

/-- Replacing one device and its file keeps the others together. -/
theorem represents_update_iff (devices : Devices) (files : Minor → ByteFile bufSize)
    (represents : Represents devices files) (minor : Minor) (device : MydevDevice)
    (file : ByteFile bufSize) :
    Represents (Function.update devices minor device) (Function.update files minor file) ↔
      load device.buf 0 device.len = file.bytes := by
  constructor
  · intro both
    have own := both minor
    rwa [Function.update_self, Function.update_self] at own
  · intro own other
    by_cases same : other = minor
    · rw [same, Function.update_self, Function.update_self]
      exact own
    · rw [Function.update_of_ne same, Function.update_of_ne same]
      exact represents other

/-- A write that gets to its copy stores the data of the file's write, and moves
the length to its end where that is larger. -/
theorem write_accepted_devices (word : Word) (system : System) (file : Nat) (place : Place)
    (count : Nat) (source : UserSource) (interrupted : Bool) (minor : Minor)
    (bounded : Bounded system.devices)
    (accepted : WriteAccepted (system.privateData file) (place.offset system.positions file)
      interrupted minor)
    (copied : Copied ⟨system, .write file place count source interrupted⟩) :
    let position := place.offset system.positions file
    let data := (source.bytes.take (min count maxRwCount)).take (bufSize - position)
    (step word system (.write file place count source interrupted)).1.devices =
      Function.update system.devices minor
        ⟨store (system.devices minor).buf position data,
          max (system.devices minor).len (position + data.length)⟩ := by
  intro position data
  have inside : position < bufSize := accepted.2.2
  have admitted : ¬ loffLimit ≤ place.offset system.positions file := by
    simp only [bufSize, position] at inside
    simp only [loffLimit]
    omega
  have complete : source.uncopied (min (min count maxRwCount) (bufSize - position)) = 0 :=
    copied minor accepted
  have landed : source.landed (min (min count maxRwCount) (bufSize - position)) = data := by
    rw [source.landed_complete _ complete]
    simp only [data, List.take_take, Nat.min_comm]
  have size : data.length = min (min count maxRwCount) (bufSize - position) := by
    have fetched := source.landed_length_complete _ complete
    rwa [landed] at fetched
  have written := mydev_write_accepted word system.devices (system.privateData file) source
    (min count maxRwCount) position interrupted minor (bounded minor) accepted
  rw [if_neg (fun failed => failed complete), landed, ← size] at written
  simp only [step, if_neg admitted]
  exact congrArg Stored.state written

/-- A write keeps devices and files together exactly when its hole is blank. -/
theorem write_represents_iff (word : Word) (system : System) (files : Minor → ByteFile bufSize)
    (file : Nat) (place : Place) (count : Nat) (source : UserSource) (interrupted : Bool)
    (bounded : Bounded system.devices) (represents : Represents system.devices files)
    (copied : Copied ⟨system, .write file place count source interrupted⟩) :
    Represents (step word system (.write file place count source interrupted)).1.devices
        (referenceStep files ⟨system, .write file place count source interrupted⟩) ↔
      HoleBlank ⟨system, .write file place count source interrupted⟩ := by
  by_cases reached : ∃ minor, WriteAccepted (system.privateData file)
      (place.offset system.positions file) interrupted minor
  · obtain ⟨minor, accepted⟩ := reached
    obtain ⟨opened, signal, inside⟩ := accepted
    have written := write_accepted_devices word system file place count source interrupted minor
      bounded ⟨opened, signal, inside⟩ copied
    have overlaid : referenceStep files ⟨system, .write file place count source interrupted⟩ =
        Function.update files minor ((files minor).write (place.offset system.positions file)
          (source.bytes.take (min count maxRwCount)) inside) := by
      simp only [referenceStep, opened, dif_pos inside, signal, Bool.false_eq_true, if_false]
    have blank : HoleBlank ⟨system, .write file place count source interrupted⟩ ↔
        ∀ index, (system.devices minor).len ≤ index →
          index < place.offset system.positions file → (system.devices minor).buf index = 0 := by
      constructor
      · exact fun all => all minor ⟨opened, signal, inside⟩
      · rintro own other ⟨otherOpened, _, _⟩
        obtain rfl := Option.some.inj (opened.symm.trans otherOpened)
        exact own
    rw [written, overlaid, represents_update_iff _ _ represents, blank,
      ByteFile.write_bytes, ← represents minor]
    exact store_overlay_iff _ _ _ _
  · have refused : ∀ minor, ¬ WriteAccepted (system.privateData file)
        (place.offset system.positions file) interrupted minor := not_exists.mp reached
    have unwritten :
        (step word system (.write file place count source interrupted)).1.devices =
          system.devices := by
      simp only [step]
      split
      · rfl
      · obtain ⟨ret, unchanged, _⟩ := mydev_write_refused word system.devices
          (system.privateData file) source (min count maxRwCount)
          (place.offset system.positions file) interrupted refused
        rw [unchanged]
    have unchanged : referenceStep files ⟨system, .write file place count source interrupted⟩ =
        files := by
      cases opened : system.privateData file with
      | none => simp only [referenceStep, opened]
      | some minor =>
        simp only [referenceStep, opened]
        split
        · rename_i inside
          cases interrupted with
          | true => rfl
          | false => exact absurd ⟨opened, rfl, inside⟩ (refused minor)
        · rfl
    rw [unwritten, unchanged]
    exact ⟨fun _ minor accepted => absurd accepted (refused minor), fun _ => represents⟩

/-- Every call keeps devices and files together exactly when, if it is a write, its
hole is blank. -/
theorem step_represents_iff (word : Word) (event : Event System Call)
    (files : Minor → ByteFile bufSize) (bounded : Bounded event.before.devices)
    (copied : Copied event) (represents : Represents event.before.devices files) :
    Represents (event.left (step word)).devices (referenceStep files event) ↔
      HoleBlank event := by
  obtain ⟨system, call⟩ := event
  cases call with
  | openFile | release | dataShow | statsShow | llseek =>
    exact ⟨fun _ => trivial, fun _ => represents⟩
  | read file place count room interrupted =>
    refine ⟨fun _ => trivial, fun _ => ?_⟩
    simp only [Event.left, step]
    split <;> exact represents
  | write file place count source interrupted =>
    exact write_represents_iff word system files file place count source interrupted bounded
      represents copied
  | dataStore minor input interrupted =>
    refine ⟨fun _ => trivial, fun _ => ?_⟩
    cases interrupted with
    | true => exact represents
    | false =>
      apply (represents_update_iff _ _ represents minor _ _).mpr
      have cut : (if bufSize < input.length then bufSize else input.length) =
          (input.take bufSize).length := by
        rw [List.length_take]
        split <;> omega
      have kept : input.take (input.take bufSize).length = input.take bufSize := by
        rw [List.length_take, ← List.take_take, List.take_length]
      simp only [cut, kept]
      exact load_store_same _ _ _
  | resetStore minor count interrupted =>
    refine ⟨fun _ => trivial, fun _ => ?_⟩
    cases interrupted with
    | true => exact represents
    | false => exact (represents_update_iff _ _ represents minor _ _).mpr rfl

/-- For every run with complete user copies, every read in every state of the run
returns the bytes of the file exactly when each write of the run starts where the
content reaches, or past its end with only zero bytes between the two. -/
theorem reads_follow_reference_iff (word : Word) (memory : Minor → Memory) (calls : List Call)
    (copied : ∀ event ∈ trace (step word) (loaded memory) calls, Copied event) :
    AtEachState (step word) (loaded memory) calls
        (fun history system => ReadsAgree word system.devices (reference history)) ↔
      ∀ event ∈ trace (step word) (loaded memory) calls, HoleBlank event := by
  rw [← at_each_call_iff (step word) (loaded memory) calls HoleBlank]
  refine history_throughout_iff (step word) (fun _ system => Bounded system.devices)
    (fun history system => ReadsAgree word system.devices (reference history))
    (fun _ => Copied) (fun _ => HoleBlank)
    (fun _ event bounded _ => bounded_kept word event.before event.call bounded) ?_
    (loaded memory) calls (fun _ => Nat.zero_le _) ?_
    ((at_each_call_iff (step word) (loaded memory) calls Copied).mpr copied)
  · intro history event bounded eventCopied agree
    have represents := (reads_agree_iff word _ _ bounded).mp agree
    have next := reads_agree_iff word (event.left (step word)).devices
      (reference (history ++ [event])) (bounded_kept word event.before event.call bounded)
    rw [next, reference_append_singleton]
    exact step_represents_iff word event (reference history) bounded eventCopied represents
  · refine (reads_agree_iff word _ _ (fun _ => Nat.zero_le _)).mpr ?_
    intro minor
    rfl

/-- A write two bytes past the end of a fresh device reads back behind two zeros. -/
theorem fresh_hole_follows_reference :
    AtEachState (step .bits64) (loaded fun _ _ => 0)
      [.openFile 0 firstMinor, .write 0 (.fixed 2) 1 (.ofBytes [65]) false]
      (fun history system => ReadsAgree .bits64 system.devices (reference history)) := by
  refine (reads_follow_reference_iff .bits64 (fun _ _ => 0) _ ?_).mpr ?_
  · rintro event (_ | ⟨_, _ | ⟨_, impossible⟩⟩)
    · trivial
    · exact fun _ _ => (by decide : min (min 1 maxRwCount) (bufSize - 2) - 1 = 0)
    · contradiction
  · rintro event (_ | ⟨_, _ | ⟨_, impossible⟩⟩)
    · trivial
    · rintro minor ⟨opened, _, _⟩ index _ before
      obtain rfl := Option.some.inj opened
      exact fill_inside (fun _ => 0) 0 bufSize 0 index (Nat.zero_le _)
        (Nat.lt_trans before (by decide))
    · contradiction

/-- Four bytes are stored through sysfs, then one; a byte is then written at position
three. -/
def staleRun : List Call :=
  [.openFile 0 firstMinor, .dataStore firstMinor [97, 98, 99, 100] false,
    .dataStore firstMinor [120] false, .write 0 (.fixed 3) 1 (.ofBytes [121]) false]

/-- The replaced bytes at positions one and two are readable again. -/
theorem replaced_bytes_readable :
    (∀ event ∈ trace (step .bits64) (loaded fun _ _ => 0) staleRun, Copied event) ∧
      (mydevRead .bits64 (after (step .bits64) (loaded fun _ _ => 0) staleRun).devices
        (some firstMinor) 4 4 0 false).data = [120, 98, 99, 121] ∧
      (reference (trace (step .bits64) (loaded fun _ _ => 0) staleRun) firstMinor).bytes =
        [120, 0, 0, 121] ∧
      ¬ AtEachState (step .bits64) (loaded fun _ _ => 0) staleRun
        (fun history system => ReadsAgree .bits64 system.devices (reference history)) := by
  have data : (mydevRead .bits64 (after (step .bits64) (loaded fun _ _ => 0) staleRun).devices
      (some firstMinor) 4 4 0 false).data = [120, 98, 99, 121] := by decide
  have bytes : (reference (trace (step .bits64) (loaded fun _ _ => 0) staleRun)
      firstMinor).bytes = [120, 0, 0, 121] := by decide
  refine ⟨?_, data, bytes, ?_⟩
  · rintro event (_ | ⟨_, _ | ⟨_, _ | ⟨_, _ | ⟨_, impossible⟩⟩⟩⟩)
    · trivial
    · trivial
    · trivial
    · exact fun _ _ => (by decide : min (min 1 maxRwCount) (bufSize - 3) - 1 = 0)
    · contradiction
  · intro agree
    have read := congrArg Served.data
      (agree staleRun List.prefix_rfl firstMinor 4 4 0 start_admitted (Nat.le_refl _))
    simp only [ByteFile.read, data, bytes] at read
    exact absurd read (by decide)

end LddExamples.MultiMinorFiles
