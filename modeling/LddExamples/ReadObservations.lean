import LddExamples.StorageRuns
import LddExamples.MultiMinorDevice
import LddExamples.CharacterSkeleton
import LddExamples.DualPoll

/-!
# What reads can tell of a device

For each of four drivers: a read depends on the buffer only through the bytes
below the readable length, and reads at explicit positions reach every one of
those bytes. So two states that agree in everything but a buffer are told apart
by some list of reads exactly when the buffers differ below that length.

A list of reads may use any files, at their positions or at explicit ones, with
any lengths, faults and signals.
-/

namespace LddExamples.ReadObservations

open Runs ByteWindows KernelInterface

section Storage

open StorageDevice StorageRuns

/-- The reads of the storage device, among its calls. -/
def storageReads : Call → Prop
  | .read .. => True
  | _ => False

/-- A read of a 64-bit kernel depends on the bytes of the buffer only. -/
theorem storage_read_congr (storage other : Storage) (length room offset : Nat)
    (interrupted : Bool) (admitted : length ≤ maxRwCount)
    (agree : ∀ index < storageTotalSize, storage.storageBuffer index = other.storageBuffer index) :
    storageRead 64 storage length room offset interrupted =
      storageRead 64 other length room offset interrupted := by
  cases interrupted with
  | true => rfl
  | false =>
    rw [storage_read_window storage length room offset admitted,
      storage_read_window other length room offset admitted]
    exact (window_read_agree_iff _ _ _).mpr agree offset length room

/-- States with the same positions are indistinguishable exactly when their
buffers agree. -/
theorem storage_indistinguishable_iff (first second : System)
    (positions : first.positions = second.positions) :
    Indistinguishable step storageReads first second ↔
      ∀ index < storageTotalSize,
        first.storage.storageBuffer index = second.storage.storageBuffer index := by
  constructor
  · intro same index below
    have one := indistinguishable_call step storageReads first second same
      (.read 0 (.fixed index) 1 1 false) trivial
    have admitted : 1 ≤ maxRwCount := by decide
    simp only [step, Place.offset, one_admitted, storage_read_window _ _ _ _ admitted] at one
    have bytes := congrArg Reply.data one
    simp only [window_read_byte _ _ _ below] at bytes
    exact (List.cons.inj bytes).1
  · intro agree
    refine indistinguishable_of step storageReads
      (fun first second => first.positions = second.positions ∧ ∀ index < storageTotalSize,
        first.storage.storageBuffer index = second.storage.storageBuffer index) ?_
      first second ⟨positions, agree⟩
    rintro first second call ⟨positions, agree⟩ reads
    cases call with
    | read file place length room interrupted =>
      have served := storage_read_congr first.storage second.storage (min length maxRwCount) room
        (place.offset second.positions file) interrupted (Nat.min_le_right _ _) agree
      simp only [step, positions, served]
      exact ⟨trivial, trivial, agree⟩
    | write | seek | ioctl => exact absurd reads id

end Storage

section MultiMinor

open MultiMinorDevice

/-- The reads of the multi-minor driver; its attributes are not among them. -/
def multiMinorReads : Call → Prop
  | .read .. => True
  | _ => False

/-- A read depends on the contents only. -/
theorem multi_minor_read_congr (word : Word) (devices other : Devices) (privateData : Option Minor)
    (count room ppos : Nat) (interrupted : Bool) (bounded : Bounded devices)
    (admitted : ppos < loffLimit) (same : SameContents devices other) :
    mydevRead word devices privateData count room ppos interrupted =
      mydevRead word other privateData count room ppos interrupted := by
  cases privateData with
  | none => simp only [mydevRead, underLock_none]
  | some minor =>
    cases interrupted with
    | true => simp only [mydevRead, underLock_interrupted]
    | false =>
      obtain ⟨lengths, agree⟩ := same minor
      have fits : (other minor).len ≤ bufSize := lengths ▸ bounded minor
      rw [mydev_read_window word devices minor count room ppos (bounded minor) admitted,
        mydev_read_window word other minor count room ppos fits admitted, ← lengths]
      exact (window_read_agree_iff _ _ _).mpr agree ppos count room

/-- Two buffers of a device that a file is open on are indistinguishable exactly
when they agree on the content. -/
theorem multi_minor_indistinguishable_iff (word : Word) (system : System) (file : Nat)
    (minor : Minor) (buf : Memory) (opened : system.privateData file = some minor)
    (bounded : Bounded system.devices) :
    Indistinguishable (step word) multiMinorReads
        { system with
            devices := Function.update system.devices minor ⟨buf, (system.devices minor).len⟩ }
        system ↔
      ∀ index < (system.devices minor).len, buf index = (system.devices minor).buf index := by
  constructor
  · intro same index below
    have one := indistinguishable_call (step word) multiMinorReads _ _ same
      (.read file (.fixed index) 1 1 false) trivial
    have inside : index < bufSize := Nat.lt_of_lt_of_le below (bounded minor)
    have admitted : index < loffLimit := Nat.lt_trans inside (by decide)
    have updated := mydev_read_window word
      (Function.update system.devices minor ⟨buf, (system.devices minor).len⟩) minor 1 1 index
      (by rw [Function.update_self]; exact bounded minor) admitted
    simp only [step, Place.offset, opened, Nat.not_le_of_lt admitted, if_false, one_admitted,
      updated, mydev_read_window word system.devices minor _ _ _ (bounded minor) admitted,
      Function.update_self] at one
    have bytes := congrArg Reply.data one
    simp only [window_read_byte _ _ _ below] at bytes
    exact (List.cons.inj bytes).1
  · intro agree
    refine indistinguishable_of (step word) multiMinorReads
      (fun first second => Bounded first.devices ∧ SameContents first.devices second.devices ∧
        first.privateData = second.privateData ∧ first.positions = second.positions) ?_ _ _
      ⟨bounded_update _ _ _ bounded (bounded minor), same_contents_update _ _ _ agree, rfl, rfl⟩
    rintro first second call ⟨bounded, contents, privateData, positions⟩ reads
    cases call with
    | read file place count room interrupted =>
      by_cases refused : loffLimit ≤ place.offset second.positions file
      · simp only [step, positions, refused, if_true]
        exact ⟨trivial, bounded, contents, privateData, trivial⟩
      · have served := multi_minor_read_congr word first.devices second.devices
          (second.privateData file) (min count maxRwCount) room
          (place.offset second.positions file) interrupted bounded (Nat.lt_of_not_le refused)
          contents
        simp only [step, positions, privateData, refused, if_false, served]
        exact ⟨trivial, bounded, contents, trivial, trivial⟩
    | openFile | release | write | llseek | dataShow | dataStore | statsShow | resetStore =>
      exact absurd reads id

end MultiMinor

section Skeleton

open CharacterSkeleton

/-- The reads of the character skeleton. -/
def skeletonReads : Call → Prop
  | .read .. => True
  | _ => False

/-- Two buffers are indistinguishable exactly when they agree on the content. -/
theorem skeleton_indistinguishable_iff (system : System) (buffer : Memory)
    (bounded : system.skeleton.bufferSize ≤ bufSize) :
    Indistinguishable step skeletonReads
        { system with skeleton := ⟨buffer, system.skeleton.bufferSize⟩ } system ↔
      ∀ index < system.skeleton.bufferSize, buffer index = system.skeleton.buffer index := by
  constructor
  · intro same index below
    have one := indistinguishable_call step skeletonReads _ _ same
      (.read 0 (.fixed index) 1 1) trivial
    have fits : index < bufSize := Nat.lt_of_lt_of_le below bounded
    have admitted : ¬ loffLimit ≤ index := Nat.not_le_of_lt (Nat.lt_trans fits (by decide))
    simp only [step, Place.offset, admitted, if_false, one_admitted, my_read_window] at one
    have bytes := congrArg Reply.data one
    simp only [window_read_byte _ _ _ below] at bytes
    exact (List.cons.inj bytes).1
  · intro agree
    refine indistinguishable_of step skeletonReads
      (fun first second => first.positions = second.positions ∧
        first.skeleton.bufferSize = second.skeleton.bufferSize ∧
        ∀ index < first.skeleton.bufferSize,
          first.skeleton.buffer index = second.skeleton.buffer index) ?_ _ _ ⟨rfl, rfl, agree⟩
    rintro first second call ⟨positions, length, agree⟩ reads
    cases call with
    | read file place len room =>
      have served := (window_read_agree_iff _ _ _).mpr agree
        (place.offset second.positions file) (min len maxRwCount) room
      by_cases refused : loffLimit ≤ place.offset second.positions file
      · simp only [step, positions, refused, if_true]
        exact ⟨trivial, trivial, length, agree⟩
      · simp only [step, positions, refused, if_false, my_read_window, ← length, served]
        exact ⟨trivial, trivial, trivial, agree⟩
    | write | seek => exact absurd reads id

end Skeleton

section Polled

open DualPoll

/-- The reads of the polled device. -/
def polledReads : Call → Prop
  | .read .. => True
  | _ => False

/-- Same flag, same length, and the same message. -/
def SameMessage (first second : Device) : Prop :=
  first.eventFlag = second.eventFlag ∧ first.bufferSize = second.bufferSize ∧
    ∀ index < first.bufferSize, first.buffer index = second.buffer index

/-- The rest of a read depends on the message only, and leaves the same message. -/
theorem read_rest_same (first second : Device) (len room pos : Nat)
    (same : SameMessage first second) :
    (myReadRest first len room pos).2 = (myReadRest second len room pos).2 ∧
      SameMessage (myReadRest first len room pos).1 (myReadRest second len room pos).1 := by
  obtain ⟨flag, size, agree⟩ := same
  have served := simple_read_congr first.buffer second.buffer first.bufferSize pos len room agree
  simp only [myReadRest, ← size, ← served, true_and]
  split
  · exact ⟨rfl, rfl, fun index below => absurd below (Nat.not_lt_zero index)⟩
  · exact ⟨flag, size, agree⟩

/-- A read depends on the message only, and leaves the same message. -/
theorem polled_read_same (first second : Device) (nonblock signalled : Bool) (len room pos : Nat)
    (same : SameMessage first second) :
    (myRead first nonblock signalled len room pos).2 =
        (myRead second nonblock signalled len room pos).2 ∧
      SameMessage (myRead first nonblock signalled len room pos).1
        (myRead second nonblock signalled len room pos).1 := by
  obtain ⟨reply, left⟩ := read_rest_same first second len room pos same
  have entry : myReadEntry second nonblock = myReadEntry first nonblock := by
    simp only [myReadEntry, same.1]
  simp only [myRead, entry]
  split
  · exact ⟨rfl, same⟩
  · exact ⟨rfl, same⟩
  · exact ⟨congrArg some reply, left⟩
  · exact ⟨congrArg some reply, left⟩

/-- A read call is answered alike in states with the same messages, and leaves
such states. -/
theorem polled_call_same (files : Files) (first second : System) (call : Call)
    (messages : ∀ minor, SameMessage (first.devices minor) (second.devices minor))
    (positions : first.positions = second.positions) (reads : polledReads call) :
    (step files first call).2 = (step files second call).2 ∧
      (∀ minor, SameMessage ((step files first call).1.devices minor)
        ((step files second call).1.devices minor)) ∧
      (step files first call).1.positions = (step files second call).1.positions := by
  cases call with
  | read file place len room signalled =>
    simp only [step, positions]
    split
    · exact ⟨rfl, messages, positions⟩
    · have read := polled_read_same _ _ (files.nonblock file) signalled (min len maxRwCount) room
        (place.offset second.positions file) (messages (files.minor file))
      generalize myRead (first.devices (files.minor file)) (files.nonblock file) signalled
        (min len maxRwCount) room (place.offset second.positions file) = firstRead at read ⊢
      generalize myRead (second.devices (files.minor file)) (files.nonblock file) signalled
        (min len maxRwCount) room (place.offset second.positions file) = secondRead at read ⊢
      obtain ⟨firstDevice, firstReply⟩ := firstRead
      obtain ⟨secondDevice, secondReply⟩ := secondRead
      obtain ⟨rfl, left⟩ := read
      cases firstReply with
      | none => exact ⟨rfl, messages, positions⟩
      | some served =>
        refine ⟨rfl, ?_, rfl⟩
        intro minor
        by_cases same : minor = files.minor file
        · simp only [same, Function.update_self]
          exact left
        · simp only [Function.update_of_ne same]
          exact messages minor
  | poll | write | seek => exact absurd reads id

/-- Two buffers of one minor are indistinguishable exactly when they agree on the
pending message. -/
theorem polled_indistinguishable_iff (files : Files) (system : System) (file : Nat)
    (buffer : Memory) (coherent : Coherent (system.devices (files.minor file))) :
    Indistinguishable (step files) polledReads
        { system with
            devices := Function.update system.devices (files.minor file)
              { system.devices (files.minor file) with buffer := buffer } } system ↔
      ∀ index < (system.devices (files.minor file)).bufferSize,
        buffer index = (system.devices (files.minor file)).buffer index := by
  constructor
  · intro same index below
    have one := indistinguishable_call (step files) polledReads _ _ same
      (.read file (.fixed index) 1 1 false) trivial
    have flag : (system.devices (files.minor file)).eventFlag = true := by
      by_contra clear
      have empty := coherent.quiet (Bool.eq_false_iff.mpr clear)
      omega
    have fits : index < bufSize := Nat.lt_of_lt_of_le below coherent.fits
    have admitted : ¬ loffLimit ≤ index := Nat.not_le_of_lt (Nat.lt_trans fits (by decide))
    have single : min 1 ((system.devices (files.minor file)).bufferSize - index) = 1 := by omega
    simp only [step, Place.offset, admitted, if_false, one_admitted, Function.update_self, myRead,
      myReadEntry, flag, if_true, myReadRest, simple_read_served _ _ _ _ _ below Nat.one_pos
        (Nat.le_refl 1), single] at one
    simpa [load] using one
  · intro agree
    refine indistinguishable_of (step files) polledReads
      (fun first second =>
        (∀ minor, SameMessage (first.devices minor) (second.devices minor)) ∧
          first.positions = second.positions)
      (fun first second call related reads =>
        polled_call_same files first second call related.1 related.2 reads) _ _ ⟨?_, rfl⟩
    intro minor
    by_cases same : minor = files.minor file
    · simp only [same, Function.update_self]
      exact ⟨rfl, rfl, agree⟩
    · simp only [Function.update_of_ne same]
      exact ⟨rfl, rfl, fun _ _ => rfl⟩

end Polled

end LddExamples.ReadObservations
