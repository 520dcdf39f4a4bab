import LddExamples.ReadObservations

/-!
# What a failed write leaves behind

Four drivers copy the user's bytes straight into the buffer that reads are served
from. When the copy faults, the write fails and the recorded lengths, locks,
flags and positions are as before, but the bytes that the copy has stored, or
cleared, remain. Later reads tell the difference exactly when one of those bytes
lies below the readable length and differs from the byte it replaced.
-/

namespace LddExamples.FailedWrites

open Runs ByteWindows KernelInterface ReadObservations

section Clean

variable {σ α ρ β : Type} (step : σ → α → σ × ρ) (Fails : ρ → Prop) (Reads : α → Prop)
  (status : σ → β)

/-- If the call fails, the status of the system is unchanged and no list of reads
tells the state it left from the state it met. -/
def FailsClean (event : Event σ α) : Prop :=
  Fails (event.reply step) →
    status (event.left step) = status event.before ∧
      Indistinguishable step Reads (event.left step) event.before

/-- A call that leaves the state it met fails clean. -/
theorem clean_of_unchanged (event : Event σ α) (unchanged : event.left step = event.before) :
    FailsClean step Fails Reads status event := by
  intro _
  rw [unchanged]
  exact ⟨rfl, fun _ _ => rfl⟩

/-- The copy is complete, or what it leaves below the limit is what was there. -/
def Harmless (memory : Memory) (offset limit : Nat) (source : UserSource) (count : Nat) : Prop :=
  source.uncopied count = 0 ∨ Matches memory offset limit (source.landed count)

/-- A call that fails exactly when its copy into a buffer faults, and then keeps the
status, fails clean exactly when the copy is harmless, provided that reads tell two
buffers apart exactly by their bytes below the limit. -/
theorem copy_clean_iff (event : Event σ α) (memory : Memory) (offset limit : Nat)
    (source : UserSource) (count : Nat)
    (succeeds : source.uncopied count = 0 → ¬ Fails (event.reply step))
    (fails : source.uncopied count ≠ 0 → Fails (event.reply step))
    (kept : source.uncopied count ≠ 0 → status (event.left step) = status event.before)
    (told : source.uncopied count ≠ 0 →
      (Indistinguishable step Reads (event.left step) event.before ↔
        ∀ index < limit, store memory offset (source.landed count) index = memory index)) :
    FailsClean step Fails Reads status event ↔ Harmless memory offset limit source count := by
  by_cases complete : source.uncopied count = 0
  · exact iff_of_true (fun failed => absurd failed (succeeds complete)) (Or.inl complete)
  · rw [Harmless, ← store_unseen_iff, ← told complete]
    constructor
    · exact fun clean => Or.inr (clean (fails complete)).2
    · rintro (impossible | same) _
      · exact absurd impossible complete
      · exact ⟨kept complete, same⟩

end Clean

section Storage

open StorageDevice StorageRuns

/-- The locks, the keys, the mirror and the positions. The content of this device
has a fixed length. -/
def storageStatus (system : System) :=
  (system.storage.sectorLockState, system.storage.userKeys, system.storage.mirrorBuffer,
    system.positions)

/-- If the write is accepted, its copy is harmless to the whole buffer. -/
def StorageHarmless (system : System) (file : Nat) (place : Place) (length : Nat)
    (source : UserSource) (interrupted : Bool) : Prop :=
  WriteAccepted 64 system.storage (min length maxRwCount) (place.offset system.positions file)
      interrupted →
    Harmless system.storage.storageBuffer (place.offset system.positions file) storageTotalSize
      source (clampedLength 64 (place.offset system.positions file) (min length maxRwCount))

/-- A write of the storage device fails clean exactly when it is harmless. -/
theorem storage_fails_clean_iff (system : System) (file : Nat) (place : Place) (length : Nat)
    (source : UserSource) (interrupted : Bool) :
    FailsClean step (fun reply => reply.ret < 0) storageReads storageStatus
        ⟨system, .write file place length source interrupted⟩ ↔
      StorageHarmless system file place length source interrupted := by
  rw [StorageHarmless]
  by_cases accepted : WriteAccepted 64 system.storage (min length maxRwCount)
      (place.offset system.positions file) interrupted
  · have written := storage_write_accepted 64 system.storage source _ _ _ accepted
    simp only [accepted, forall_const]
    apply copy_clean_iff
    · intro complete
      simp only [Event.reply, step, written, complete, if_true]
      omega
    · intro faults
      simp only [Event.reply, step, written, if_neg faults]
      decide
    · intro faults
      simp only [Event.left, step, written, if_neg faults, Place.commit_offset, storageStatus]
    · intro faults
      simp only [Event.left, step, written, if_neg faults, Place.commit_offset]
      exact storage_indistinguishable_iff _ _ rfl
  · obtain ⟨kept, unmoved, _⟩ := storage_write_refused 64 system.storage source
      (min length maxRwCount) (place.offset system.positions file) interrupted accepted
    refine iff_of_true (clean_of_unchanged _ _ _ _ _ ?_) (fun reached => absurd reached accepted)
    simp only [Event.left, step, kept, unmoved, Place.commit_offset]

end Storage

section MultiMinor

open MultiMinorDevice

/-- The lengths of the contents, the files' devices and the positions. -/
def multiMinorStatus (system : System) :=
  (fun minor => (system.devices minor).len, system.privateData, system.positions)

/-- If the write is accepted, its copy is harmless to the content of its device. -/
def MultiMinorHarmless (system : System) (file : Nat) (place : Place) (count : Nat)
    (source : UserSource) (interrupted : Bool) : Prop :=
  ∀ minor, WriteAccepted (system.privateData file) (place.offset system.positions file)
      interrupted minor →
    Harmless (system.devices minor).buf (place.offset system.positions file)
      (system.devices minor).len source
      (min (min count maxRwCount) (bufSize - place.offset system.positions file))

/-- A write of a mydev device fails clean exactly when it is harmless. -/
theorem multi_minor_fails_clean_iff (word : Word) (system : System) (file : Nat) (place : Place)
    (count : Nat) (source : UserSource) (interrupted : Bool) (bounded : Bounded system.devices) :
    FailsClean (step word) (fun reply => reply.ret < 0) multiMinorReads multiMinorStatus
        ⟨system, .write file place count source interrupted⟩ ↔
      MultiMinorHarmless system file place count source interrupted := by
  rw [MultiMinorHarmless]
  by_cases refused : ∀ minor, ¬ WriteAccepted (system.privateData file)
      (place.offset system.positions file) interrupted minor
  · obtain ⟨ret, unchanged, _⟩ := mydev_write_refused word system.devices (system.privateData file)
      source (min count maxRwCount) (place.offset system.positions file) interrupted refused
    refine iff_of_true (clean_of_unchanged _ _ _ _ _ ?_)
      (fun minor reached => absurd reached (refused minor))
    simp only [Event.left, step, unchanged, Place.commit_offset]
    split <;> rfl
  · obtain ⟨minor, accepted⟩ := not_forall_not.mp refused
    have only : ∀ other, WriteAccepted (system.privateData file)
        (place.offset system.positions file) interrupted other → other = minor :=
      fun other reached => Option.some.inj (reached.1.symm.trans accepted.1)
    have admitted : ¬ loffLimit ≤ place.offset system.positions file :=
      Nat.not_le_of_lt (Nat.lt_trans accepted.2.2 (by decide))
    have written := mydev_write_accepted word system.devices _ source (min count maxRwCount) _
      interrupted minor (bounded minor) accepted
    have single : (∀ other, WriteAccepted (system.privateData file)
        (place.offset system.positions file) interrupted other →
        Harmless (system.devices other).buf (place.offset system.positions file)
          (system.devices other).len source
          (min (min count maxRwCount) (bufSize - place.offset system.positions file))) ↔
        Harmless (system.devices minor).buf (place.offset system.positions file)
          (system.devices minor).len source
          (min (min count maxRwCount) (bufSize - place.offset system.positions file)) :=
      ⟨fun all => all minor accepted, fun one other reached => only other reached ▸ one⟩
    have left (faults : source.uncopied
        (min (min count maxRwCount) (bufSize - place.offset system.positions file)) ≠ 0) :
        Event.left (step word) ⟨system, .write file place count source interrupted⟩ =
          { system with
              devices := Function.update system.devices minor
                ⟨store (system.devices minor).buf (place.offset system.positions file)
                  (source.landed (min (min count maxRwCount)
                    (bufSize - place.offset system.positions file))),
                  (system.devices minor).len⟩ } := by
      simp only [Event.left, step, if_neg admitted, written, if_pos faults, Place.commit_offset]
    rw [single]
    apply copy_clean_iff
    · intro complete
      simp only [Event.reply, step, if_neg admitted, written, complete, ne_eq, not_true_eq_false,
        if_false]
      omega
    · intro faults
      simp only [Event.reply, step, if_neg admitted, written, if_pos faults]
      decide
    · intro faults
      rw [left faults]
      refine Prod.ext ?_ rfl
      funext other
      by_cases same : other = minor
      · simp only [multiMinorStatus, same, Function.update_self]
      · simp only [multiMinorStatus, Function.update_of_ne same]
    · intro faults
      rw [left faults]
      exact multi_minor_indistinguishable_iff word system file minor _ accepted.1 bounded

end MultiMinor

section Skeleton

open CharacterSkeleton

/-- The length of the content and the positions. -/
def skeletonStatus (system : System) := (system.skeleton.bufferSize, system.positions)

/-- If the write starts inside the buffer, its copy is harmless to the content. -/
def SkeletonHarmless (system : System) (file : Nat) (place : Place) (len : Nat)
    (source : UserSource) : Prop :=
  place.offset system.positions file < bufSize →
    Harmless system.skeleton.buffer (place.offset system.positions file)
      system.skeleton.bufferSize source
      (min (min len maxRwCount) (bufSize - place.offset system.positions file))

/-- A write of the skeleton fails clean exactly when it is harmless. -/
theorem skeleton_fails_clean_iff (system : System) (file : Nat) (place : Place) (len : Nat)
    (source : UserSource) (bounded : system.skeleton.bufferSize ≤ bufSize) :
    FailsClean step (fun reply => reply.ret < 0) skeletonReads skeletonStatus
        ⟨system, .write file place len source⟩ ↔
      SkeletonHarmless system file place len source := by
  rw [SkeletonHarmless]
  by_cases inside : place.offset system.positions file < bufSize
  · have admitted : ¬ loffLimit ≤ place.offset system.positions file :=
      Nat.not_le_of_lt (Nat.lt_trans inside (by decide))
    have written := my_write_inside system.skeleton source (min len maxRwCount) _ inside
    simp only [inside, forall_const]
    apply copy_clean_iff
    · intro complete
      simp only [Event.reply, step, if_neg admitted, written, complete, ne_eq, not_true_eq_false,
        if_false]
      omega
    · intro faults
      simp only [Event.reply, step, if_neg admitted, written, if_pos faults]
      decide
    · intro faults
      simp only [Event.left, step, if_neg admitted, written, if_pos faults, Place.commit_offset,
        skeletonStatus]
    · intro faults
      simp only [Event.left, step, if_neg admitted, written, if_pos faults, Place.commit_offset]
      exact skeleton_indistinguishable_iff system _ bounded
  · refine iff_of_true (clean_of_unchanged _ _ _ _ _ ?_) (fun reached => absurd reached inside)
    simp only [Event.left, step, my_write_past _ _ _ _ (Nat.le_of_not_lt inside),
      Place.commit_offset]
    split <;> rfl

end Skeleton

section Polled

open DualPoll

def polledFails (reply : Option Reply) : Prop := ∃ told, reply = some told ∧ told.ret < 0

/-- The flags, the message lengths and the positions. -/
def polledStatus (system : System) :=
  (fun minor => ((system.devices minor).eventFlag, (system.devices minor).bufferSize),
    system.positions)

/-- If the write's position is admitted, its copy is harmless to the pending
message. It writes from the start of the buffer wherever it is called. -/
def PolledHarmless (files : Files) (system : System) (file : Nat) (place : Place) (len : Nat)
    (source : UserSource) : Prop :=
  place.offset system.positions file < loffLimit →
    Harmless (system.devices (files.minor file)).buffer 0
      (system.devices (files.minor file)).bufferSize source (min (min len maxRwCount) bufSize)

/-- A write of the polled device fails clean exactly when it is harmless. -/
theorem polled_fails_clean_iff (files : Files) (system : System) (file : Nat) (place : Place)
    (len : Nat) (source : UserSource) (coherent : Coherent (system.devices (files.minor file))) :
    FailsClean (step files) polledFails polledReads polledStatus
        ⟨system, .write file place len source⟩ ↔
      PolledHarmless files system file place len source := by
  rw [PolledHarmless]
  by_cases admitted : place.offset system.positions file < loffLimit
  · have proceeds : ¬ loffLimit ≤ place.offset system.positions file := Nat.not_le_of_lt admitted
    have left (faults : source.uncopied (min (min len maxRwCount) bufSize) ≠ 0) :
        Event.left (step files) ⟨system, .write file place len source⟩ =
          { system with
              devices := Function.update system.devices (files.minor file)
                { system.devices (files.minor file) with
                    buffer := store (system.devices (files.minor file)).buffer 0
                      (source.landed (min (min len maxRwCount) bufSize)) } } := by
      simp only [Event.left, step, if_neg proceeds, my_write_failed _ _ _ _ faults,
        Place.commit_offset]
    simp only [admitted, forall_const]
    apply copy_clean_iff
    · intro complete
      simp only [Event.reply, step, if_neg proceeds, my_write_complete _ _ _ _ complete,
        polledFails]
      rintro ⟨told, same, failed⟩
      rw [← Option.some.inj same] at failed
      simp only at failed
      omega
    · intro faults
      simp only [Event.reply, step, if_neg proceeds, my_write_failed _ _ _ _ faults, polledFails]
      exact ⟨_, rfl, by decide⟩
    · intro faults
      rw [left faults]
      refine Prod.ext ?_ rfl
      funext other
      by_cases same : other = files.minor file
      · simp only [polledStatus, same, Function.update_self]
      · simp only [polledStatus, Function.update_of_ne same]
    · intro faults
      rw [left faults]
      exact polled_indistinguishable_iff files system file _ coherent
  · refine iff_of_true (clean_of_unchanged _ _ _ _ _ ?_) (fun reached => absurd reached admitted)
    simp only [Event.left, step, if_pos (Nat.le_of_not_lt admitted)]

end Polled

/-- A write call on one of the four devices, in the state that a run from loading
has left. -/
inductive ReachedWrite where
  | storage (userKeys : List (Option (List UInt8))) (memory mirror : Memory) (locks : Int → Bool)
      (positions : Positions) (earlier : List StorageRuns.Call) (file : Nat) (place : Place)
      (length : Nat) (source : UserSource) (interrupted : Bool)
  | multiMinor (word : Word) (memory : MultiMinorDevice.Minor → Memory)
      (earlier : List MultiMinorDevice.Call) (file : Nat) (place : Place) (count : Nat)
      (source : UserSource) (interrupted : Bool)
  | skeleton (positions : Positions) (earlier : List CharacterSkeleton.Call) (file : Nat)
      (place : Place) (len : Nat) (source : UserSource)
  | polled (files : DualPoll.Files) (earlier : List DualPoll.Call) (file : Nat) (place : Place)
      (len : Nat) (source : UserSource)

/-- If the write fails, the lengths, the locks or the event state and the positions
are unchanged, and so is every list of reads. -/
def ReachedWrite.Clean : ReachedWrite → Prop
  | .storage userKeys memory mirror locks positions earlier file place length source interrupted =>
      FailsClean StorageRuns.step (fun reply => reply.ret < 0) storageReads storageStatus
        ⟨after StorageRuns.step (StorageRuns.loaded userKeys memory mirror locks positions) earlier,
          .write file place length source interrupted⟩
  | .multiMinor word memory earlier file place count source interrupted =>
      FailsClean (MultiMinorDevice.step word) (fun reply => reply.ret < 0) multiMinorReads
        multiMinorStatus
        ⟨after (MultiMinorDevice.step word) (MultiMinorDevice.loaded memory) earlier,
          .write file place count source interrupted⟩
  | .skeleton positions earlier file place len source =>
      FailsClean CharacterSkeleton.step (fun reply => reply.ret < 0) skeletonReads skeletonStatus
        ⟨after CharacterSkeleton.step (CharacterSkeleton.loaded positions) earlier,
          .write file place len source⟩
  | .polled files earlier file place len source =>
      FailsClean (DualPoll.step files) polledFails polledReads polledStatus
        ⟨after (DualPoll.step files) DualPoll.loaded earlier, .write file place len source⟩

/-- The write does not get to its copy, or its copy is complete, or the bytes that
its copy leaves match the readable bytes they replace. -/
def ReachedWrite.Unseen : ReachedWrite → Prop
  | .storage userKeys memory mirror locks positions earlier file place length source interrupted =>
      StorageHarmless
        (after StorageRuns.step (StorageRuns.loaded userKeys memory mirror locks positions) earlier)
        file place length source interrupted
  | .multiMinor word memory earlier file place count source interrupted =>
      MultiMinorHarmless
        (after (MultiMinorDevice.step word) (MultiMinorDevice.loaded memory) earlier)
        file place count source interrupted
  | .skeleton positions earlier file place len source =>
      SkeletonHarmless (after CharacterSkeleton.step (CharacterSkeleton.loaded positions) earlier)
        file place len source
  | .polled files earlier file place len source =>
      PolledHarmless files (after (DualPoll.step files) DualPoll.loaded earlier)
        file place len source

/-- In every reachable state of each of the four devices, every write that fails
leaves the device as it was exactly when its copy is unseen.

The two states are compared by their status and by reads alone. Bytes that a torn copy
leaves behind the content are no difference here, although a later write that moves the
length past them takes them into the content. -/
theorem failed_write_clean_iff (write : ReachedWrite) : write.Clean ↔ write.Unseen := by
  cases write with
  | storage userKeys memory mirror locks positions earlier file place length source interrupted =>
    exact storage_fails_clean_iff _ file place length source interrupted
  | multiMinor word memory earlier file place count source interrupted =>
    exact multi_minor_fails_clean_iff word _ file place count source interrupted
      (MultiMinorDevice.bounded_after word memory earlier)
  | skeleton positions earlier file place len source =>
    exact skeleton_fails_clean_iff _ file place len source
      (CharacterSkeleton.bounded_after positions earlier)
  | polled files earlier file place len source =>
    exact polled_fails_clean_iff files _ file place len source
      ((DualPoll.wellformed_after files earlier).coherent (files.minor file))

/-- Files of the first polled minor. -/
def bothFirst : DualPoll.Files := ⟨fun _ => DualPoll.firstMinor, fun _ => true⟩

/-- On each device the bytes `AB` can be read when a write of two bytes faults
after storing `C`. The write fails, and reads then return `CB`. -/
theorem torn_write_read :
    ¬ (ReachedWrite.storage [] (fun _ => 0) (fun _ => 0) (fun _ => false) (fun _ => 0)
        [.write 0 (.fixed 0) 2 (.ofBytes [65, 66]) false] 0 (.fixed 0) 2 ⟨[67], false⟩
        false).Clean ∧
    ¬ (ReachedWrite.multiMinor .bits64 (fun _ _ => 0)
        [.openFile 0 0, .write 0 (.fixed 0) 2 (.ofBytes [65, 66]) false] 0 (.fixed 0) 2
        ⟨[67], false⟩ false).Clean ∧
    ¬ (ReachedWrite.skeleton (fun _ => 0) [.write 0 (.fixed 0) 2 (.ofBytes [65, 66])] 0 (.fixed 0)
        2 ⟨[67], false⟩).Clean ∧
    ¬ (ReachedWrite.polled bothFirst [.write 0 .current 2 (.ofBytes [65, 66])] 0 .current 2
        ⟨[67], false⟩).Clean := by
  refine ⟨?_, ?_, ?_, ?_⟩
  · intro clean
    obtain ⟨_, same⟩ := clean (by decide)
    have told := indistinguishable_call _ _ _ _ same (.read 0 (.fixed 0) 2 2 false) trivial
    exact absurd told (by decide)
  · intro clean
    obtain ⟨_, same⟩ := clean (by decide)
    have told := indistinguishable_call _ _ _ _ same (.read 0 (.fixed 0) 2 2 false) trivial
    exact absurd told (by decide)
  · intro clean
    obtain ⟨_, same⟩ := clean (by decide)
    have told := indistinguishable_call _ _ _ _ same (.read 0 (.fixed 0) 2 2) trivial
    exact absurd told (by decide)
  · intro clean
    obtain ⟨_, same⟩ := clean ⟨_, rfl, by decide⟩
    have told := indistinguishable_call _ _ _ _ same (.read 1 .current 2 2 false) trivial
    exact absurd told (by decide)

end LddExamples.FailedWrites
