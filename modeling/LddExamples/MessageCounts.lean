import LddExamples.MessageApp

/-!
# The count of the readers

When both readers of a message have it, the device should have taken it down. The increment of
`readers_count` is a load and a store, and the write takes the count back after it has put the
flag up, so that a count can be lost; then the flag stays up. Which orders of the accesses lose
none is decided by the steps themselves: by what the other reader has loaded or stored as a
reader loads the count, or as the write takes it back.
-/

namespace LddExamples.MessageCounts

open Runs KernelInterface MultiReaderDevice MessageApp

/-- Whether the read still has to load the count. -/
def unloaded : Stage → Int
  | .waiting | .copying | .counting _ => 1
  | _ => 0

/-- The next access of the read loads the count. -/
def counts : Stage → Bool
  | .counting _ => true
  | _ => false

/-- No load of the count falls between the load and the store of the other reader; and when
the write takes the count back, a reader that has stored its count is one that the other has
already loaded, unless both have been found. -/
def Harmless (event : Event App Action) : Prop :=
  let app := event.before
  match event.call with
  | .read reader _ =>
      counts (app.stage reader) = true → (app.stage reader.other).loadedCount = none
  | .write =>
      app.writing = .ready → app.device.dataReady ≠ 0 →
        (∀ reader, (app.stage reader).clears = false) → ∀ reader, (app.stage reader).stored = 1 →
          (app.stage reader.other).loadedCount ≠ none

/-- The count that is left when no reader is between its load and its store is the number of
the readers that have stored one, and the one that a reader has loaded takes in the other. -/
structure Counted (readersCount : Int) (own other : Stage) : Prop where
  ownCount : ∀ count, own.loadedCount = some count →
    count = 1 + other.stored ∧ other.loadedCount = none
  otherCount : ∀ count, other.loadedCount = some count →
    count = 1 + own.stored ∧ own.loadedCount = none
  settled : own.loadedCount = none → other.loadedCount = none →
    readersCount = own.stored + other.stored

/-- A count is lost: what is counted and what still can be does not come to two. -/
structure Spoiled (readersCount : Int) (own other : Stage) : Prop where
  count : readersCount + unloaded own + unloaded other ≤ 1
  ownCount : ∀ count, own.loadedCount = some count → count + unloaded other ≤ 1
  otherCount : ∀ count, other.loadedCount = some count → count + unloaded own ≤ 1

/-- The relation to the count is the same for both readers. -/
theorem counted_symm (readersCount : Int) (own other : Stage)
    (counted : Counted readersCount own other) : Counted readersCount other own :=
  ⟨counted.otherCount, counted.ownCount, fun free owned => by
    rw [counted.settled owned free, Int.add_comm]⟩

/-- So is its loss. -/
theorem spoiled_symm (readersCount : Int) (own other : Stage)
    (spoiled : Spoiled readersCount own other) : Spoiled readersCount other own :=
  ⟨by rw [Int.add_right_comm]; exact spoiled.count, spoiled.otherCount, spoiled.ownCount⟩

/-- A reader that goes on with its count as it was. -/
theorem counted_same (readersCount : Int) (own next other : Stage)
    (counted : Counted readersCount own other) (stored : next.stored = own.stored)
    (loaded : next.loadedCount = own.loadedCount) : Counted readersCount next other := by
  refine ⟨?_, ?_, ?_⟩
  · rw [loaded]
    exact counted.ownCount
  · rw [loaded, stored]
    exact counted.otherCount
  · rw [loaded, stored]
    exact counted.settled

/-- A step that neither loads the count nor drops a loaded one leaves a lost count lost. -/
theorem spoiled_same (readersCount : Int) (own next other : Stage)
    (spoiled : Spoiled readersCount own other) (unloaded : unloaded next = unloaded own)
    (loaded : next.loadedCount = own.loadedCount) : Spoiled readersCount next other := by
  refine ⟨?_, ?_, ?_⟩
  · rw [unloaded]
    exact spoiled.count
  · rw [loaded]
    exact spoiled.ownCount
  · rw [unloaded]
    exact spoiled.otherCount

section PublishedCounts

variable (message : Message) (found : Prop) (device : Device) (own other : Stage)
  (published : Published message found device own other)
include published

/-- Both readers have been counted before they are found. -/
theorem found_stored (now : found) : own.stored = 1 ∧ other.stored = 1 := by
  rcases published.marked.mp now with clears | clears | down
  · exact published.clearing (Or.inl clears)
  · exact published.clearing (Or.inr clears)
  · rcases published.flag with up | ⟨_, stored⟩
    · omega
    · exact stored

/-- A harmless access of a read keeps the count, or finds both readers. -/
theorem counted_read (signal : Bool) (counted : Counted device.readersCount own other)
    (harmless : counts own = true → other.loadedCount = none) :
    (found ∨ finds device own) ∨
      Counted (readStep device signal own).1.readersCount (readStep device signal own).2 other := by
  cases own with
  | waiting =>
    rw [published_passes message found device other signal published]
    exact Or.inr (counted_same device.readersCount _ _ other counted rfl rfl)
  | copying =>
    rw [copy_whole message device signal published.data]
    exact Or.inr (counted_same device.readersCount _ _ other counted rfl rfl)
  | counting reply =>
    have free := harmless rfl
    refine Or.inr ⟨fun count same => ⟨?_, free⟩, fun count same => ?_, fun impossible => ?_⟩
    · obtain rfl : device.readersCount + 1 = count := Option.some.inj same
      have settled : device.readersCount = 0 + other.stored := counted.settled rfl free
      omega
    · exact absurd (free.symm.trans same) (by simp)
    · cases impossible
  | storing reply count =>
    obtain ⟨exactly, free⟩ := counted.ownCount count rfl
    refine Or.inr ⟨fun _ impossible => ?_, fun later same => ?_, fun _ _ => exactly⟩
    · cases impossible
    · exact absurd (free.symm.trans same) (by simp)
  | comparing reply =>
    by_cases full : totalReaders ≤ device.readersCount
    · exact Or.inl (Or.inr ⟨rfl, full⟩)
    · obtain rfl : reply = message.whole := published.ownSound
      simp only [readStep, if_neg full]
      exact Or.inr (counted_same device.readersCount _ _ other counted (stored_whole message) rfl)
  | failing reply =>
    have failed : Failed reply := published.ownSound
    exact Or.inr (counted_same device.readersCount _ _ other counted (stored_failed reply failed)
      rfl)
  | clearingCount | clearingReady =>
    exact Or.inl (Or.inl (published.marked.mpr (Or.inl rfl)))
  | returned => exact Or.inr counted

/-- Where a count is lost, no access of a read finds both readers. -/
theorem spoiled_read (signal : Bool) (unfound : ¬ found)
    (spoiled : Spoiled device.readersCount own other) :
    ¬ (found ∨ finds device own) ∧
      Spoiled (readStep device signal own).1.readersCount (readStep device signal own).2 other := by
  have range (stage : Stage) : 0 ≤ unloaded stage := by
    cases stage <;> simp [unloaded]
  have few : device.readersCount ≤ 1 := by
    have count := spoiled.count
    have := range own
    have := range other
    omega
  have notFull : ¬ totalReaders ≤ device.readersCount := by
    have two : totalReaders = 2 := rfl
    omega
  refine ⟨not_or.mpr ⟨unfound, fun finds => notFull finds.2⟩, ?_⟩
  cases own with
  | waiting =>
    rw [published_passes message found device other signal published]
    exact spoiled_same device.readersCount _ _ other spoiled rfl rfl
  | copying =>
    rw [copy_whole message device signal published.data]
    exact spoiled_same device.readersCount _ _ other spoiled rfl rfl
  | counting reply =>
    have count : device.readersCount + 1 + unloaded other ≤ 1 := spoiled.count
    refine ⟨?_, fun later same => ?_, fun later same => ?_⟩
    · show device.readersCount + 0 + unloaded other ≤ 1
      omega
    · obtain rfl : device.readersCount + 1 = later := Option.some.inj same
      exact count
    · have bound : later + 1 ≤ 1 := spoiled.otherCount later same
      show later + 0 ≤ 1
      omega
  | storing reply count =>
    have own := spoiled.ownCount count rfl
    refine ⟨?_, fun _ impossible => ?_, spoiled.otherCount⟩
    · show count + 0 + unloaded other ≤ 1
      omega
    · cases impossible
  | comparing reply =>
    simp only [readStep, if_neg notFull]
    exact spoiled_same device.readersCount _ _ other spoiled rfl rfl
  | failing => exact spoiled_same device.readersCount _ _ other spoiled rfl rfl
  | clearingCount | clearingReady =>
    exact absurd (published.marked.mpr (Or.inl rfl)) unfound
  | returned => exact spoiled

/-- A load of the count that falls between the load and the store of the other reader loses
one of them. -/
theorem read_spoils (signal : Bool) (counts : counts own = true)
    (busy : other.loadedCount ≠ none) :
    ¬ (found ∨ finds device own) ∧
      Spoiled (readStep device signal own).1.readersCount (readStep device signal own).2 other := by
  cases own with
  | waiting | failing | copying | storing | comparing | clearingCount | clearingReady
  | returned => cases counts
  | counting reply =>
  cases other with
  | waiting | failing | copying | counting | comparing | clearingCount | clearingReady
  | returned => exact absurd rfl busy
  | storing later count =>
    have high : device.readersCount ≤ 0 + 0 := published.high
    have bound : 1 ≤ count ∧ count ≤ 1 + 0 := published.otherCount count rfl
    refine ⟨?_, ?_, fun mine same => ?_, fun its same => ?_⟩
    · rintro (now | ⟨impossible, _⟩)
      · have stored : (0 : Int) = 1 := (found_stored message found device _ _ published now).1
        omega
      · cases impossible
    · show device.readersCount + 0 + 0 ≤ 1
      omega
    · obtain rfl : device.readersCount + 1 = mine := Option.some.inj same
      show device.readersCount + 1 + 0 ≤ 1
      omega
    · obtain rfl : count = its := Option.some.inj same
      show count + 0 ≤ 1
      omega

/-- A count that is lost stays lost when the write takes it back to zero: fewer than two
loads are left. -/
theorem spoiled_reset (spoiled : Spoiled device.readersCount own other) :
    Spoiled 0 own other := by
  have low := published.low
  have count := spoiled.count
  refine ⟨?_, spoiled.ownCount, spoiled.otherCount⟩
  show 0 + unloaded own + unloaded other ≤ 1
  omega

end PublishedCounts

/-- A write that takes a harmless count back keeps the count. -/
theorem counted_reset (readersCount : Int) (own other : Stage)
    (counted : Counted readersCount own other)
    (ownFree : own.stored = 1 → other.loadedCount ≠ none)
    (otherFree : other.stored = 1 → own.loadedCount ≠ none) :
    Counted 0 own other := by
  refine ⟨counted.ownCount, counted.otherCount, fun free busy => ?_⟩
  have ownStored : own.stored ≠ 1 := fun stored => ownFree stored busy
  have otherStored : other.stored ≠ 1 := fun stored => otherFree stored free
  have ownRange := stored_range own
  have otherRange := stored_range other
  show 0 = own.stored + other.stored
  omega

/-- A write that takes the count of a reader back loses it, where the other reader has not
loaded it. -/
theorem reset_spoils (own other : Stage) (stored : own.stored = 1)
    (free : other.loadedCount = none) :
    Spoiled 0 own other := by
  have loaded : unloaded own = 0 ∧ own.loadedCount = none := by
    cases own with
    | waiting | failing | copying | counting | storing =>
      exact absurd stored (by simp [Stage.stored])
    | comparing | clearingCount | clearingReady | returned => exact ⟨rfl, rfl⟩
  refine ⟨?_, fun count same => ?_, fun count same => ?_⟩
  · show 0 + unloaded own + unloaded other ≤ 1
    have most : unloaded other ≤ 1 := by
      cases other <;> simp [unloaded]
    omega
  · exact absurd (loaded.2.symm.trans same) (by simp)
  · exact absurd (free.symm.trans same) (by simp)

/-- Before the flag is up, the count is right. -/
theorem unpublished_counted (message : Message) (app : App)
    (unpublished : Unpublished message app) (reader : Reader) :
    Counted app.device.readersCount (app.stage reader) (app.stage reader.other) := by
  have own := unpublished_idle message app unpublished reader
  have other := unpublished_idle message app unpublished reader.other
  refine ⟨?_, ?_, fun _ _ => ?_⟩
  · simp [own.loaded]
  · simp [other.loaded]
  · rw [unpublished.count, own.stored, other.stored]
    rfl

/-- The count of the application is right, whichever reader looks at it. -/
def CountKept (app : App) : Prop :=
  ∀ reader, Counted app.device.readersCount (app.stage reader) (app.stage reader.other)

/-- The count is lost, seen from either reader. -/
def CountLost (app : App) : Prop :=
  ∀ reader, Spoiled app.device.readersCount (app.stage reader) (app.stage reader.other)

/-- After harmless steps the count is right, or both readers have been found; after another
one it is lost for good. -/
structure Judged (history : List (Event App Action)) (app : App) : Prop where
  harmless : (∀ event ∈ history, Harmless event) →
    Found history ∨ CountKept app
  harmful : (∃ event ∈ history, ¬ Harmless event) →
    ¬ Found history ∧ app.writing.published = true ∧ CountLost app

/-- The flag is not taken down by the write. -/
theorem published_kept (message : Message) (app : App) (action : Action)
    (up : app.writing.published = true) :
    (step message app action).1.writing.published = true := by
  obtain ⟨device, stage, writing⟩ := app
  cases action with
  | read => exact up
  | write =>
    cases writing with
    | unwritten | copied | terminated => cases up
    | ready | returned => rfl

/-- Before the flag is up, every step is harmless. -/
theorem unpublished_harmless (message : Message) (app : App) (action : Action)
    (unpublished : Unpublished message app) (down : app.writing.published = false) :
    Harmless ⟨app, action⟩ := by
  cases action with
  | read reader signal =>
    intro counts
    rcases unpublished.readers reader with waits | ⟨reply, _, fails | returned⟩
    · rw [waits] at counts
      cases counts
    · rw [fails] at counts
      cases counts
    · rw [returned] at counts
      cases counts
  | write =>
    intro ready
    rw [ready] at down
    cases down

section JudgedSteps

variable (message : Message) (history : List (Event App Action)) (app : App) (action : Action)
  (delivers : Delivers message (Found history) app)
include delivers

/-- What a run keeps once the flag is up, for a reader. -/
theorem delivers_published (up : app.writing.published = true) (reader : Reader) :
    Published message (Found history) app.device (app.stage reader) (app.stage reader.other) := by
  simp only [Delivers, up, if_true] at delivers
  exact delivers reader

/-- What a run keeps before that. -/
theorem delivers_unpublished (down : app.writing.published = false) :
    Unpublished message app := by
  simp only [Delivers, down, Bool.false_eq_true, if_false] at delivers
  exact delivers.2

/-- A harmless step keeps the count, or both readers have been found. -/
theorem harmless_kept (harmless : Harmless ⟨app, action⟩)
    (counted : CountKept app) :
    (Found history ∨ Finds ⟨app, action⟩) ∨ CountKept (step message app action).1 := by
  cases up : app.writing.published with
  | false =>
    have unpublished := delivers_unpublished message history app delivers up
    cases action with
    | read reader signal =>
      exact Or.inr (unpublished_counted message _
        (read_unpublished message app unpublished reader signal).2)
    | write =>
      obtain ⟨device, stage, writing⟩ := app
      cases writing with
      | ready | returned => cases up
      | unwritten | copied | terminated => exact Or.inr counted
  | true =>
    have published := delivers_published message history app delivers up
    cases action with
    | read reader signal =>
      refine (counted_read message _ _ _ _ (published reader) signal (counted reader)
        harmless).imp_right fun kept => ?_
      refine both_readers _ (counted_symm _) _ reader ?_
      simpa only [step, move_stage, move_other, move_device] using kept
    | write =>
      obtain ⟨device, stage, writing⟩ := app
      cases writing with
      | unwritten | copied | terminated => cases up
      | returned => exact Or.inr counted
      | ready =>
        refine or_iff_not_imp_left.mpr fun unfound reader => ?_
        have free := (not_congr (published reader).marked).mp (not_or.mp unfound).1
        have clears (any : Reader) : (stage any).clears = false := by
          rcases this_or_other reader any with rfl | rfl
          · exact Bool.eq_false_iff.mpr fun clears => free (Or.inl clears)
          · exact Bool.eq_false_iff.mpr fun clears => free (Or.inr (Or.inl clears))
        have loaded := harmless rfl (fun down => free (Or.inr (Or.inr down))) clears
        have back := loaded reader.other
        rw [other_other] at back
        exact counted_reset _ _ _ (counted reader) (loaded reader) back

/-- A lost count stays lost. -/
theorem spoiled_kept (unfound : ¬ Found history) (up : app.writing.published = true)
    (spoiled : CountLost app) :
    ¬ (Found history ∨ Finds ⟨app, action⟩) ∧ CountLost (step message app action).1 := by
  have published := delivers_published message history app delivers up
  cases action with
  | read reader signal =>
    obtain ⟨still, kept⟩ := spoiled_read message _ _ _ _ (published reader) signal unfound
      (spoiled reader)
    refine ⟨still, both_readers _ (spoiled_symm _) _ reader ?_⟩
    simpa only [step, move_stage, move_other, move_device] using kept
  | write =>
    refine ⟨not_or.mpr ⟨unfound, id⟩, ?_⟩
    obtain ⟨device, stage, writing⟩ := app
    cases writing with
    | unwritten | copied | terminated => cases up
    | returned => exact spoiled
    | ready => exact fun reader => spoiled_reset message _ _ _ _ (published reader) (spoiled reader)

/-- A step that is not harmless loses a count. -/
theorem harmful_spoils (harmful : ¬ Harmless ⟨app, action⟩) :
    ¬ (Found history ∨ Finds ⟨app, action⟩) ∧ app.writing.published = true ∧
      CountLost (step message app action).1 := by
  cases up : app.writing.published with
  | false =>
    exact absurd (unpublished_harmless message app action
      (delivers_unpublished message history app delivers up) up) harmful
  | true =>
    have published := delivers_published message history app delivers up
    cases action with
    | read reader signal =>
      obtain ⟨counts, busy⟩ := Classical.not_imp.mp harmful
      obtain ⟨still, spoiled⟩ := read_spoils message _ _ _ _ (published reader) signal counts busy
      refine ⟨still, rfl, both_readers _ (spoiled_symm _) _ reader ?_⟩
      simpa only [step, move_stage, move_other, move_device] using spoiled
    | write =>
      obtain ⟨device, stage, writing⟩ := app
      simp only [Harmless, Classical.not_imp, not_forall, not_not] at harmful
      obtain ⟨rfl, up, clears, reader, stored, free⟩ := harmful
      have unfound : ¬ Found history := by
        rw [(published reader).marked, clears, clears]
        simpa using up
      exact ⟨not_or.mpr ⟨unfound, id⟩, rfl,
        both_readers _ (spoiled_symm _) _ reader (reset_spoils _ _ stored free)⟩

/-- Every step keeps the judgement of the run. -/
theorem judged_kept (judged : Judged history app) :
    Judged (history ++ [⟨app, action⟩]) (step message app action).1 := by
  refine ⟨fun harmless => ?_, fun harmful => ?_⟩
  · rw [found_append_singleton]
    have last := harmless _ (List.mem_append_right _ List.mem_cons_self)
    rcases judged.harmless fun event member => harmless event (List.mem_append_left _ member) with
      found | counted
    · exact Or.inl (Or.inl found)
    · exact harmless_kept message history app action delivers last counted
  · rw [found_append_singleton]
    by_cases earlier : ∃ event ∈ history, ¬ Harmless event
    · obtain ⟨unfound, up, spoiled⟩ := judged.harmful earlier
      obtain ⟨still, kept⟩ := spoiled_kept message history app action delivers unfound up spoiled
      exact ⟨still, published_kept message app action up, kept⟩
    · have last : ¬ Harmless ⟨app, action⟩ := by
        obtain ⟨event, member, harmful⟩ := harmful
        rcases List.mem_append.mp member with within | same
        · exact absurd ⟨event, within, harmful⟩ earlier
        · rwa [List.mem_singleton.mp same] at harmful
      obtain ⟨still, up, spoiled⟩ := harmful_spoils message history app action delivers last
      exact ⟨still, published_kept message app action up, spoiled⟩

end JudgedSteps

/-- In every run, the count is judged by the steps that it took. -/
theorem run_judged (message : Message) (rest : Rest) (actions : List Action) :
    Judged (trace (step message) (start rest) actions)
      (after (step message) (start rest) actions) := by
  have throughout := history_along (step message)
    (fun history app => Delivers message (Found history) app ∧ Judged history app)
    (fun _ _ => True)
    (fun history event ⟨delivers, judged⟩ _ => ⟨delivers_kept message history event delivers,
      judged_kept message history event.before event.call delivers judged⟩) (start rest) actions
    ⟨run_delivers message rest [], fun _ => Or.inr (unpublished_counted message (start rest)
      ⟨rest.ready, rest.count, trivial, fun _ => Or.inl rfl⟩), by simp⟩ (fun _ _ _ => trivial)
  exact (throughout actions List.prefix_rfl).2

/-- When both readers have returned, the flag is down if they have been found, and else it stays
up. -/
theorem published_returned (message : Message) (found : Prop) (device : Device)
    (published : Published message found device (.returned message.whole)
      (.returned message.whole)) :
    (found → device.dataReady = 0 ∧ device.readersCount = 0) ∧
      (¬ found → device.dataReady = 1 ∧ 0 ≤ device.readersCount ∧ device.readersCount ≤ 1) := by
  have marked : found ↔ device.dataReady = 0 := by
    rw [published.marked]
    simp [Stage.clears]
  refine ⟨fun now => ?_, fun unfound => ⟨?_, published.low, ?_⟩⟩
  · have down := marked.mp now
    exact ⟨down, published.emptied (Or.inr (Or.inr down))⟩
  · exact published.flag.resolve_right fun taken => unfound (marked.mpr taken.1)
  · by_contra many
    rcases published.pending (by omega) with now | compares | compares
    · exact unfound now
    · cases compares
    · cases compares

/-- A right count of two readers that have returned has been found. -/
theorem counted_found (message : Message) (found : Prop) (device : Device)
    (published : Published message found device (.returned message.whole)
      (.returned message.whole))
    (counted : Counted device.readersCount (.returned message.whole) (.returned message.whole)) :
    found := by
  have settled := counted.settled rfl rfl
  rw [stored_whole] at settled
  rcases published.pending (by omega) with now | compares | compares
  · exact now
  · cases compares
  · cases compares

/-- When both readers have the message, the device that was at rest has taken it down, and is at
rest again for the next one, exactly if every step of the run was harmless; else the flag stays up,
for any read that comes later, with at most one reader counted. A run that begins with the flag up
or with a count is another matter: a count that is left can take the flag down early. -/
theorem taken_down_iff (message : Message) (rest : Rest) (actions : List Action)
    (both : ∀ reader, (after (step message) (start rest) actions).stage reader =
      .returned message.whole) :
    let run := trace (step message) (start rest) actions
    let final := after (step message) (start rest) actions
    ((final.device.dataReady = 0 ∧ final.device.readersCount = 0) ↔
        ∀ event ∈ run, Harmless event) ∧
      (¬ (∀ event ∈ run, Harmless event) →
        final.device.dataReady = 1 ∧ 0 ≤ final.device.readersCount ∧
          final.device.readersCount ≤ 1) := by
  intro run final
  have delivers := run_delivers message rest actions
  have judged := run_judged message rest actions
  have up : final.writing.published = true := by
    by_contra down
    have unpublished := delivers_unpublished message _ final delivers (Bool.eq_false_iff.mpr down)
    rcases unpublished.readers .reader1 with waits | ⟨reply, failed, fails | returned⟩
    · cases waits.symm.trans (both .reader1)
    · cases fails.symm.trans (both .reader1)
    · obtain rfl := Stage.returned.inj (returned.symm.trans (both .reader1))
      exact absurd (failed_negative _ failed) (Int.not_lt.mpr (whole_nonneg message))
  have published := delivers_published message _ final delivers up .reader1
  rw [both, both] at published
  obtain ⟨found, unfound⟩ := published_returned message _ final.device published
  have exactly (harmless : ∀ event ∈ run, Harmless event) : Found run := by
    rcases judged.harmless harmless with found | counted
    · exact found
    · have last := counted .reader1
      rw [both, both] at last
      exact counted_found message _ final.device published last
  have lost (harmful : ¬ ∀ event ∈ run, Harmless event) :
      final.device.dataReady = 1 ∧ 0 ≤ final.device.readersCount ∧
        final.device.readersCount ≤ 1 := by
    refine unfound (judged.harmful ?_).1
    simpa only [not_forall, exists_prop] using harmful
  refine ⟨⟨fun taken => ?_, fun harmless => found (exactly harmless)⟩, lost⟩
  by_contra harmful
  have left := (lost harmful).1
  omega

/-- The write, and then one reader after the other. -/
def inTurn : List Action :=
  List.replicate 4 .write ++ List.replicate 5 (.read .reader1 false) ++
    List.replicate 7 (.read .reader2 false)

/-- Two readers that take the count one after the other take the message down. -/
theorem taken_down_in_turn :
    (after (step testMessage) (start .loaded) inTurn).device.dataReady = 0 ∧
      ∀ event ∈ trace (step testMessage) (start .loaded) inTurn, Harmless event :=
  ⟨rfl, (taken_down_iff testMessage .loaded inTurn (fun reader => by cases reader <;> rfl)).1.mp
    ⟨rfl, rfl⟩⟩

-- Both readers load the count before either stores it.
example :
    (after (step testMessage) (start .loaded) (List.replicate 4 .write ++
      List.replicate 3 (.read .reader1 false) ++ List.replicate 5 (.read .reader2 false) ++
      List.replicate 2 (.read .reader1 false))).device.dataReady = 1 := by
  rfl

end LddExamples.MessageCounts
