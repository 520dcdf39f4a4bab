import LddExamples.LightDevice
import LddExamples.Runs
import Mathlib.Data.List.Forall2

/-!
# Reading the light status as a unit

Any number of reads and writes run step by step, one atomic access at a time, in any
order. A read may load a field between the stores of a write, and two writes may store
in turn, so that what is read was never written as a whole.

Which write a field comes from depends on the order of the steps alone, and not on the
structs that are written. A second system therefore stores the number of the write in
place of a value. An order of steps gives whole structs, whatever is written, exactly
when its reads load all their fields from one write.
-/

namespace LddExamples.LightSnapshots

open LightDevice Runs

/-- The fields in the order in which they are accessed. -/
def allFields : List Field := [.state, .brightness, .temperature]

/-- A read, with the fields that it has still to load. -/
structure Read where
  lRead : LightStatus
  remaining : List Field
deriving DecidableEq

/-- The device, the fields that each write has still to store, and the reads. Writes and
reads are numbered as they start. -/
structure System where
  device : Device
  writes : List (List Field)
  reads : List Read

/-- The starts of writes and reads, and their single accesses. -/
inductive Action where
  | startWrite
  /-- A read starts, with anything in its local struct. -/
  | startRead (lRead : LightStatus)
  | store (writer : Nat)
  | load (reader : Nat)

/-- One step, when each write is passed a struct; a finished call does nothing. -/
def step (passed : Nat → LightStatus) (system : System) : Action → System × Unit
  | .startWrite => ({ system with writes := system.writes ++ [allFields] }, ())
  | .startRead lRead => ({ system with reads := system.reads ++ [⟨lRead, allFields⟩] }, ())
  | .store writer =>
      match system.writes[writer]? with
      | some (field :: rest) =>
          ({ system with
              device := storeField system.device (passed writer) field
              writes := system.writes.set writer rest }, ())
      | _ => (system, ())
  | .load reader =>
      match system.reads[reader]? with
      | some ⟨lRead, field :: rest⟩ =>
          ({ system with
              reads := system.reads.set reader ⟨loadField system.device lRead field, rest⟩ }, ())
      | _ => (system, ())

/-- The loaded driver, with no call. -/
def start : System := ⟨loaded, [], []⟩

/-- The struct that a read of the driver as loaded returns. -/
def initial : LightStatus := ⟨false, 0, 25⟩

/-- With nothing in between its stores, a write is the whole handler. -/
theorem undivided_write (passed : Nat → LightStatus) (system : System) :
    after (step passed) system
        (.startWrite :: List.replicate 3 (.store system.writes.length)) =
      { system with
        device := (lightWrite system.device (some (passed system.writes.length))).1
        writes := system.writes ++ [[]] } := by
  simp [List.replicate, step, allFields, lightWrite]

/-- With nothing in between its loads, a read has what the whole handler copies to the
user. -/
theorem undivided_read (passed : Nat → LightStatus) (system : System) (lRead : LightStatus) :
    ∃ status,
      after (step passed) system
          (.startRead lRead :: List.replicate 3 (.load system.reads.length)) =
        { system with reads := system.reads ++ [⟨status, []⟩] } ∧
      ∀ room, (lightRead system.device lRead room).data = status.bytes.take room := by
  refine ⟨[Field.state, .brightness, .temperature].foldl (loadField system.device) lRead, ?_, ?_⟩
  · simp [List.replicate, step, allFields]
  · intro room
    exact (apply_ite KernelInterface.Reply.data _ _ _).trans (ite_self _)

/-- Every finished read has the initial struct, or one that was passed to a write. -/
def Whole (passed : Nat → LightStatus) (system : System) : Prop :=
  ∀ read ∈ system.reads, read.remaining = [] →
    read.lRead = initial ∨ ∃ writer < system.writes.length, read.lRead = passed writer

/-- A read, with the writes that its fields come from. -/
structure Sources where
  loaded : Field → Option Nat
  remaining : List Field

/-- The system with the number of a write, if any, in place of each value. -/
structure Tags where
  stored : Field → Option Nat
  writes : List (List Field)
  reads : List Sources

/-- One step. -/
def tagStep (tags : Tags) : Action → Tags × Unit
  | .startWrite => ({ tags with writes := tags.writes ++ [allFields] }, ())
  | .startRead _ => ({ tags with reads := tags.reads ++ [⟨fun _ => none, allFields⟩] }, ())
  | .store writer =>
      match tags.writes[writer]? with
      | some (field :: rest) =>
          ({ tags with
              stored := Function.update tags.stored field (some writer)
              writes := tags.writes.set writer rest }, ())
      | _ => (tags, ())
  | .load reader =>
      match tags.reads[reader]? with
      | some ⟨sources, field :: rest⟩ =>
          ({ tags with
              reads := tags.reads.set reader
                ⟨Function.update sources field (tags.stored field), rest⟩ }, ())
      | _ => (tags, ())

/-- Nothing is written. -/
def unwritten : Tags := ⟨fun _ => none, [], []⟩

/-- When a read loads its last field, that was last stored by the write that the other
fields have come from. -/
def FromOneWrite (event : Event Tags Action) : Prop :=
  ∀ reader sources field, event.call = .load reader →
    event.before.reads[reader]? = some ⟨sources, [field]⟩ →
      ∀ other, other ≠ field → sources other = event.before.stored field

/-- Every finished read has its fields from one write, or all from none. -/
def Uniform (tags : Tags) : Prop :=
  ∀ sources ∈ tags.reads, sources.remaining = [] → ∃ source, ∀ field, sources.loaded field = source

section Lists

variable {ι : Type} {κ : Type}

/-- Related lists have related entries at each place. -/
theorem rel_getElem? (related : ι → κ → Prop) (first : List ι) (second : List κ)
    (lists : List.Forall₂ related first second) (index : Nat) :
    Option.Rel related first[index]? second[index]? := by
  induction lists generalizing index with
  | nil => exact .none
  | cons head tail inductionHypothesis =>
    cases index with
    | zero => exact .some head
    | succ index => exact inductionHypothesis index

/-- Related entries at one place keep lists related. -/
theorem rel_set (related : ι → κ → Prop) (first : List ι) (second : List κ)
    (lists : List.Forall₂ related first second) (index : Nat) (entry : ι) (other : κ)
    (entries : related entry other) :
    List.Forall₂ related (first.set index entry) (second.set index other) := by
  induction lists generalizing index with
  | nil => exact .nil
  | cons head tail inductionHypothesis =>
    cases index with
    | zero => exact .cons entries tail
    | succ index => exact .cons head (inductionHypothesis index)

/-- Every entry has a related one. -/
theorem exists_rel (related : ι → κ → Prop) (first : List ι) (second : List κ)
    (lists : List.Forall₂ related first second) (entry : ι) (member : entry ∈ first) :
    ∃ other ∈ second, related entry other := by
  obtain ⟨index, found⟩ := List.mem_iff_getElem?.mp member
  have both := rel_getElem? related first second lists index
  rw [found] at both
  cases corresponding : second[index]? with
  | none =>
    rw [corresponding] at both
    cases both
  | some other =>
    rw [corresponding] at both
    cases both with
    | some entries => exact ⟨other, List.mem_of_getElem? corresponding, entries⟩

/-- Where all entries have a property, they keep it when one is replaced exactly if the
new one has it. -/
theorem forall_mem_set_iff (Good : ι → Prop) (list : List ι) (index : Nat) (entry : ι)
    (inside : index < list.length) (good : ∀ other ∈ list, Good other) :
    (∀ other ∈ list.set index entry, Good other) ↔ Good entry := by
  constructor
  · exact fun all => all entry (List.mem_set inside entry)
  · intro new other member
    rcases List.mem_or_eq_of_mem_set member with old | rfl
    · exact good other old
    · exact new

end Lists

section Tags

/-- After an update, all values are one exactly when the others are the new one. -/
theorem update_uniform_iff (sources : Field → Option Nat) (field : Field) (source : Option Nat) :
    (∃ common, ∀ other, Function.update sources field source other = common) ↔
      ∀ other, other ≠ field → sources other = source := by
  constructor
  · rintro ⟨common, all⟩ other different
    have last := all field
    have earlier := all other
    rw [Function.update_self] at last
    rw [Function.update_of_ne different] at earlier
    exact earlier.trans last.symm
  · intro same
    refine ⟨source, fun other => ?_⟩
    by_cases isField : other = field
    · rw [isField, Function.update_self]
    · rw [Function.update_of_ne isField]
      exact same other isField

/-- A step keeps finished reads uniform exactly when it loads no last field of another
write. -/
theorem uniform_step_iff (event : Event Tags Action) (uniform : Uniform event.before) :
    Uniform (event.left tagStep) ↔ FromOneWrite event := by
  obtain ⟨tags, action⟩ := event
  cases action with
  | startWrite => exact iff_of_true uniform (fun _ _ _ impossible => by cases impossible)
  | startRead lRead =>
    refine iff_of_true ?_ (fun _ _ _ impossible => by cases impossible)
    intro sources member finished
    rcases List.mem_append.mp member with before | new
    · exact uniform sources before finished
    · rw [List.mem_singleton.mp new] at finished
      contradiction
  | store writer =>
    refine iff_of_true ?_ (fun _ _ _ impossible => by cases impossible)
    simp only [Event.left, tagStep]
    split
    · exact uniform
    · exact uniform
  | load reader =>
    simp only [Event.left, tagStep]
    split
    · next sources field rest found =>
      have inside : reader < tags.reads.length := (List.getElem?_eq_some_iff.mp found).1
      apply (forall_mem_set_iff _ tags.reads reader _ inside uniform).trans
      cases rest with
      | nil =>
        simp only [true_imp_iff, update_uniform_iff]
        constructor
        · rintro oneWrite other loaded last same entry
          cases same
          cases found.symm.trans entry
          exact oneWrite
        · exact fun oneWrite => oneWrite reader sources field rfl found
      | cons next later =>
        refine iff_of_true (fun impossible => by cases impossible) ?_
        rintro other loaded last same entry
        cases same
        cases found.symm.trans entry
    · next unfinished =>
      apply iff_of_true uniform
      rintro other loaded last same entry
      cases same
      exact absurd entry (unfinished loaded last [])

/-- In every order of steps, finished reads are uniform throughout exactly when every
read loads its last field from the write that the others have come from. -/
theorem uniform_throughout_iff (schedule : List Action) :
    AtEachState tagStep unwritten schedule (fun _ tags => Uniform tags) ↔
      AtEachCall tagStep unwritten schedule (fun _ event => FromOneWrite event) :=
  history_throughout_iff tagStep (fun _ _ => True) (fun _ => Uniform) (fun _ _ => True)
    (fun _ => FromOneWrite) (fun _ _ _ _ => trivial)
    (fun _ event _ _ uniform => uniform_step_iff event uniform) unwritten schedule trivial
    (fun _ member => absurd member List.not_mem_nil) (fun _ _ _ => trivial)

/-- Fields come only from writes that have started. -/
structure Valid (tags : Tags) : Prop where
  stored : ∀ field writer, tags.stored field = some writer → writer < tags.writes.length
  loaded : ∀ sources ∈ tags.reads, ∀ field writer,
    sources.loaded field = some writer → writer < tags.writes.length

/-- An update with a valid source leaves valid sources. -/
theorem update_valid (sources : Field → Option Nat) (field : Field) (source : Option Nat)
    (bound : Nat) (before : ∀ other writer, sources other = some writer → writer < bound)
    (new : ∀ writer, source = some writer → writer < bound) (other : Field) (writer : Nat)
    (updated : Function.update sources field source other = some writer) : writer < bound := by
  by_cases same : other = field
  · rw [same, Function.update_self] at updated
    exact new writer updated
  · rw [Function.update_of_ne same] at updated
    exact before other writer updated

/-- Every step keeps the sources valid. -/
theorem valid_step (tags : Tags) (action : Action) (valid : Valid tags) :
    Valid (tagStep tags action).1 := by
  obtain ⟨stored, loaded⟩ := valid
  cases action with
  | startWrite =>
    have longer : tags.writes.length < (tags.writes ++ [allFields]).length := by simp
    refine ⟨fun field writer source => ?_, fun sources member field writer source => ?_⟩
    · exact (stored field writer source).trans longer
    · exact (loaded sources member field writer source).trans longer
  | startRead lRead =>
    refine ⟨stored, fun sources member field writer source => ?_⟩
    rcases List.mem_append.mp member with before | new
    · exact loaded sources before field writer source
    · rw [List.mem_singleton.mp new] at source
      contradiction
  | store writer =>
    simp only [tagStep]
    split
    · next field rest found =>
      have inside : writer < tags.writes.length := (List.getElem?_eq_some_iff.mp found).1
      have kept : (tags.writes.set writer rest).length = tags.writes.length := List.length_set
      constructor
      · simp only [kept]
        apply update_valid tags.stored field (some writer) _ stored
        rintro _ ⟨⟩
        exact inside
      · simp only [kept]
        exact loaded
    · exact ⟨stored, loaded⟩
  | load reader =>
    simp only [tagStep]
    split
    · next sources field rest found =>
      refine ⟨stored, fun read member => ?_⟩
      rcases List.mem_or_eq_of_mem_set member with before | rfl
      · exact loaded read before
      · exact update_valid sources field (tags.stored field) _
          (loaded _ (List.mem_of_getElem? found)) (stored field)
    · exact ⟨stored, loaded⟩

end Tags

section Values

/-- The struct that a field comes from. -/
def source (passed : Nat → LightStatus) : Option Nat → LightStatus
  | none => initial
  | some writer => passed writer

/-- A read has loaded the values of its sources. -/
def ReadImage (passed : Nat → LightStatus) (sources : Sources) (read : Read) : Prop :=
  read.remaining = sources.remaining ∧ ∀ field, field ∉ sources.remaining →
    read.lRead.value field = (source passed (sources.loaded field)).value field

/-- The system has the values of the sources. -/
structure Images (passed : Nat → LightStatus) (tags : Tags) (system : System) : Prop where
  device : ∀ field,
    system.device.atomicRead field = (source passed (tags.stored field)).value field
  writes : system.writes = tags.writes
  reads : List.Forall₂ (ReadImage passed) tags.reads system.reads

/-- The fields are all there are. -/
theorem mem_all_fields (field : Field) : field ∈ allFields := by
  cases field <;> decide

/-- A load gives a read the value of the field's source. -/
theorem load_image (passed : Nat → LightStatus) (device : Device) (stored : Field → Option Nat)
    (values : ∀ field, device.atomicRead field = (source passed (stored field)).value field)
    (loaded : Field → Option Nat) (lRead : LightStatus) (field : Field) (rest : List Field)
    (image : ReadImage passed ⟨loaded, field :: rest⟩ ⟨lRead, field :: rest⟩) :
    ReadImage passed ⟨Function.update loaded field (stored field), rest⟩
      ⟨loadField device lRead field, rest⟩ := by
  refine ⟨rfl, fun other absent => ?_⟩
  simp only [loadField]
  by_cases same : other = field
  · rw [same, Function.update_self, values, assign_value_same]
  · rw [Function.update_of_ne same, assign_value_other _ _ _ _ same]
    apply image.2 other
    rintro (_ | ⟨_, later⟩)
    · exact same rfl
    · exact absent later

/-- Every step keeps the values those of the sources. -/
theorem images_step (passed : Nat → LightStatus) (tags : Tags) (system : System)
    (action : Action) (images : Images passed tags system) :
    Images passed (tagStep tags action).1 (step passed system action).1 := by
  obtain ⟨values, writes, reads⟩ := images
  cases action with
  | startWrite => exact ⟨values, congrArg (· ++ [allFields]) writes, reads⟩
  | startRead lRead =>
    have unread : ReadImage passed ⟨fun _ => none, allFields⟩ ⟨lRead, allFields⟩ :=
      ⟨rfl, fun field absent => absurd (mem_all_fields field) absent⟩
    exact ⟨values, writes, List.rel_append reads (.cons unread .nil)⟩
  | store writer =>
    simp only [tagStep, step, writes]
    split
    · next field rest found =>
      refine ⟨fun other => ?_, rfl, reads⟩
      simp only [storeField]
      by_cases same : other = field
      · rw [same, Function.update_self, atomic_set_same]
        rfl
      · rw [Function.update_of_ne same, atomic_set_other _ _ _ _ same]
        exact values other
    · exact ⟨values, writes, reads⟩
  | load reader =>
    have both := rel_getElem? _ _ _ reads reader
    simp only [tagStep, step]
    cases tagged : tags.reads[reader]? with
    | none =>
      rw [tagged] at both
      generalize system.reads[reader]? = valued at both ⊢
      cases both
      exact ⟨values, writes, reads⟩
    | some sources =>
      rw [tagged] at both
      generalize system.reads[reader]? = valued at both ⊢
      obtain ⟨loaded, remaining⟩ := sources
      cases both with
      | @some _ read image =>
        obtain ⟨lRead, left⟩ := read
        cases image.1
        cases remaining with
        | nil => exact ⟨values, writes, reads⟩
        | cons field rest =>
          exact ⟨values, writes, rel_set _ _ _ reads reader _ _
            (load_image passed system.device tags.stored values loaded lRead field rest image)⟩

/-- After every order of steps, the values are those of the sources. -/
theorem images_after (passed : Nat → LightStatus) (schedule : List Action) :
    Images passed (after tagStep unwritten schedule) (after (step passed) start schedule) := by
  have first : Images passed unwritten start := by
    refine ⟨fun field => ?_, rfl, .nil⟩
    cases field <;> rfl
  exact (replies_refine tagStep (step passed) (fun _ => True) (Images passed)
    (fun tags system action images _ => ⟨rfl, images_step passed tags system action images⟩)
    unwritten start first schedule (fun _ _ => trivial)).2

/-- Reads whose fields come from one write have the struct that was passed to it. -/
theorem whole_of_uniform (passed : Nat → LightStatus) (tags : Tags) (system : System)
    (images : Images passed tags system) (valid : Valid tags) (uniform : Uniform tags) :
    Whole passed system := by
  intro read member finished
  obtain ⟨sources, tagged, image⟩ :=
    exists_rel _ _ _ images.reads.flip read member
  have complete : sources.remaining = [] := image.1.symm.trans finished
  obtain ⟨common, all⟩ := uniform sources tagged complete
  have struct : read.lRead = source passed common := by
    apply status_eq_of_values
    intro field
    have loaded := image.2 field (by simp [complete])
    rwa [all field] at loaded
  cases common with
  | none => exact Or.inl struct
  | some writer =>
    have started := valid.loaded sources tagged .state writer (all .state)
    exact Or.inr ⟨writer, images.writes ▸ started, struct⟩

/-- A struct that differs from the initial one in every field. -/
def distinct : LightStatus := ⟨true, 1, 26⟩

/-- One write is passed the distinct struct, and all others the initial one. -/
def marked (writer : Nat) (other : Nat) : LightStatus :=
  if other = writer then distinct else initial

/-- A field has the value of the distinct struct exactly if it comes from the marked
write. -/
theorem marked_value_iff (writer : Nat) (origin : Option Nat) (field : Field) :
    (source (marked writer) origin).value field = distinct.value field ↔
      origin = some writer := by
  have differs : initial.value field ≠ distinct.value field := by
    cases field <;> decide
  cases origin with
  | none => exact iff_of_false differs (by simp)
  | some other =>
    simp only [source, marked, Option.some.injEq]
    by_cases same : other = writer
    · rw [if_pos same]
      exact iff_of_true rfl same
    · rw [if_neg same]
      exact iff_of_false differs same

/-- Where marked structs are read whole, whichever write is marked, the fields of each
read come from one write.

Proof: a whole struct is the distinct one or the initial one. So either all fields of the
read come from the marked write, or none does. -/
theorem uniform_of_whole (tags : Tags) (system : Nat → System)
    (images : ∀ writer, Images (marked writer) tags (system writer))
    (whole : ∀ writer, Whole (marked writer) (system writer)) : Uniform tags := by
  intro sources tagged complete
  have together (writer : Nat) (field other : Field) (loaded : sources.loaded field = some writer) :
      sources.loaded other = some writer := by
    obtain ⟨read, member, image⟩ := exists_rel _ _ _ (images writer).reads sources tagged
    have value (field : Field) :
        read.lRead.value field = (source (marked writer) (sources.loaded field)).value field :=
      image.2 field (by simp [complete])
    have struct : read.lRead = initial ∨ read.lRead = distinct := by
      rcases whole writer read member (image.1.trans complete) with first | ⟨one, -, passed⟩
      · exact Or.inl first
      · rw [passed, marked]
        split
        · exact Or.inr rfl
        · exact Or.inl rfl
    have isDistinct : read.lRead = distinct := by
      have fromMarked := (value field).trans ((marked_value_iff writer _ field).mpr loaded)
      refine struct.resolve_left fun isInitial => ?_
      rw [isInitial] at fromMarked
      exact absurd ((marked_value_iff writer none field).mp fromMarked) (by simp)
    apply (marked_value_iff writer _ other).mp
    rw [← value other, isDistinct]
  refine ⟨sources.loaded .state, fun field => ?_⟩
  cases first : sources.loaded .state with
  | some writer => exact together writer .state field first
  | none =>
    cases here : sources.loaded field with
    | none => rfl
    | some writer =>
      have impossible := together writer field .state here
      rw [first] at impossible
      contradiction

end Values

/-- For every order of steps of any number of reads and writes: whatever structs are
written, in every state each finished read has the initial struct or one that was passed
to a write, exactly when every read loads its last field from the write that its other
fields have come from. -/
theorem snapshots_whole_iff (schedule : List Action) :
    (∀ passed, AtEachState (step passed) start schedule fun _ system => Whole passed system) ↔
      AtEachCall tagStep unwritten schedule fun _ event => FromOneWrite event := by
  rw [← uniform_throughout_iff]
  constructor
  · intro whole earlier isPrefix
    exact uniform_of_whole _ (fun writer => after (step (marked writer)) start earlier)
      (fun writer => images_after (marked writer) earlier)
      (fun writer => whole (marked writer) earlier isPrefix)
  · intro uniform passed earlier isPrefix
    have valid : Valid (after tagStep unwritten earlier) :=
      invariant_after tagStep Valid valid_step unwritten earlier
        ⟨fun _ _ impossible => by simp [unwritten] at impossible,
          fun _ member => absurd member List.not_mem_nil⟩
    exact whole_of_uniform passed _ _ (images_after passed earlier) valid
      (uniform earlier isPrefix)

/-- The second write stores all its fields after the first field of the first write, and
a read follows when both are done. -/
def mixedWrites : List Action :=
  [.startWrite, .startWrite, .store 0, .store 1, .store 1, .store 1, .store 0, .store 0,
    .startRead initial, .load 0, .load 0, .load 0]

/-- Two writers with nothing in common. -/
def mixedStructs (writer : Nat) : LightStatus :=
  if writer = 0 then ⟨true, 10, 30⟩ else ⟨false, 20, 40⟩

/-- The read has the state of the second write and the other fields of the first. -/
theorem mixture_read :
    (after (step mixedStructs) start mixedWrites).reads.map (fun read => read.lRead) =
        [⟨false, 10, 30⟩] ∧
      ¬ AtEachState (step mixedStructs) start mixedWrites
        (fun _ system => Whole mixedStructs system) := by
  refine ⟨by decide, fun whole => ?_⟩
  have last := whole mixedWrites List.prefix_rfl ⟨⟨false, 10, 30⟩, []⟩ (by decide) rfl
  exact absurd last (by decide)

end LddExamples.LightSnapshots

