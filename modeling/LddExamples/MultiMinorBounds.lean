import LddExamples.MultiMinorDevice

/-!
# The bounds of the multi-minor driver

Each handler hands at most one range of a device's buffer to a copy: the copy to or
from the user, the copy of an attribute's input, the clearing of the buffer, or the
formatting of its text. The range of a handler is a definition here, and the handler
is shown to be a copy over exactly that range; what the copy delivers decides which
bytes of the range are stored, so a fault anywhere leaves the rest as it was.

The ranges stay inside the buffer because the lengths of the contents do, and the
positions of the files stay inside it because a seek checks the one it sets and a
read or write ends at its range. Positioned calls pass any position.
-/

namespace LddExamples.MultiMinorBounds

open Runs ByteWindows KernelInterface MultiMinorDevice

/-- Consecutive indices of a buffer. -/
structure Range where
  start : Nat
  count : Nat
deriving DecidableEq

/-- No index of the range is at or beyond the end of the buffer. -/
def Range.Inside (range : Range) : Prop := range.start + range.count ≤ bufSize

/-- The range of a read under the lock, none at the end of the content. -/
def readRange (word : Word) (d : MydevDevice) (count ppos : Nat) : Option Range :=
  if word.mixed d.len ≤ word.mixed ppos then none
  else
    let rest := word.mixed ((d.len : Int) - ppos)
    some ⟨ppos, if rest < count then wrapUnsigned word.bits rest else count⟩

/-- The range of a write under the lock, none at the end of the buffer. -/
def writeRange (word : Word) (count ppos : Nat) : Option Range :=
  if bufSize ≤ ppos then none
  else
    let rest := word.mixed ((bufSize : Int) - ppos)
    some ⟨ppos, if rest < count then wrapUnsigned word.bits rest else count⟩

/-- The range that the formatting of `data_show` may look at. -/
def showRange (d : MydevDevice) : Range :=
  ⟨0, min (wrapSigned 32 d.len).toNat precisionMax⟩

/-- The range that `data_store` replaces. -/
def storeRange (input : List UInt8) : Range :=
  ⟨0, if bufSize < input.length then bufSize else input.length⟩

/-- The range that `reset_store` clears. -/
def resetRange : Range := ⟨0, bufSize⟩

/-- A read is a copy of its range to the user. -/
theorem mydev_read_range (word : Word) (devices : Devices) (minor : Minor)
    (count room ppos : Nat) :
    mydevRead word devices (some minor) count room ppos false =
      match readRange word (devices minor) count ppos with
      | none => ⟨0, ppos, []⟩
      | some range =>
          let (data, missing) :=
            copyToUser (load (devices minor).buf range.start range.count) room
          if missing ≠ 0 then ⟨-efault, ppos, data⟩
          else ⟨range.count, ppos + range.count, data⟩ := by
  simp only [mydevRead, underLock_some, readRange]
  split <;> rfl

/-- A write is a copy from the user to its range. -/
theorem mydev_write_range (word : Word) (devices : Devices) (minor : Minor)
    (source : UserSource) (count ppos : Nat) :
    mydevWrite word devices (some minor) source count ppos false =
      match writeRange word count ppos with
      | none => ⟨devices, -enospc, ppos⟩
      | some range =>
          let (buf, missing) :=
            copyFromUser (devices minor).buf range.start source range.count
          if missing ≠ 0 then
            ⟨Function.update devices minor { devices minor with buf := buf }, -efault, ppos⟩
          else
            let ppos := ppos + range.count
            let len := if word.mixed (devices minor).len < word.mixed ppos then
              wrapUnsigned word.bits ppos else (devices minor).len
            ⟨Function.update devices minor ⟨buf, len⟩, range.count, ppos⟩ := by
  simp only [mydevWrite, underLock_some, writeRange]
  split <;> rfl

/-- The text of `data_show` is made of bytes of its range. -/
theorem data_show_range (devices : Devices) (minor : Minor) :
    dataShow devices (some minor) false =
      sysfsEmit ((load (devices minor).buf (showRange (devices minor)).start
        (showRange (devices minor)).count).takeWhile (fun byte => decide (byte ≠ 0)) ++
          [newline]) := rfl

/-- `data_store` replaces its range by as many bytes of the input. -/
theorem data_store_range (devices : Devices) (minor : Minor) (input : List UInt8) :
    dataStore devices (some minor) input false =
      (Function.update devices minor
        ⟨store (devices minor).buf (storeRange input).start (input.take (storeRange input).count),
          (storeRange input).count⟩, ((storeRange input).count : Int)) := rfl

/-- `reset_store` clears its range. -/
theorem reset_store_range (devices : Devices) (minor : Minor) (count : Nat) :
    resetStore devices (some minor) count false =
      (Function.update devices minor
        ⟨fill (devices minor).buf resetRange.start resetRange.count 0, 0⟩, (count : Int)) := rfl

/-- The ranges that a call reads or stores. A call that is refused before it takes
the lock touches nothing, and neither do the calls that never look at a buffer. -/
def ranges (word : Word) (system : System) : Call → List Range
  | .read file place count _ interrupted =>
      let offset := place.offset system.positions file
      if loffLimit ≤ offset then []
      else
        underLock (system.privateData file) interrupted (fun _ => []) fun minor =>
          (readRange word (system.devices minor) (min count maxRwCount) offset).toList
  | .write file place count _ interrupted =>
      let offset := place.offset system.positions file
      if loffLimit ≤ offset then []
      else
        underLock (system.privateData file) interrupted (fun _ => []) fun _ =>
          (writeRange word (min count maxRwCount) offset).toList
  | .dataShow minor interrupted =>
      underLock (some minor) interrupted (fun _ => []) fun minor =>
        [showRange (system.devices minor)]
  | .dataStore minor input interrupted =>
      underLock (some minor) interrupted (fun _ => []) fun _ => [storeRange input]
  | .resetStore minor _ interrupted =>
      underLock (some minor) interrupted (fun _ => []) fun _ => [resetRange]
  | .openFile _ _ | .release _ | .llseek _ _ _ _ | .statsShow _ _ => []

/-- The range of a read ends inside the content. -/
theorem read_range_inside (word : Word) (d : MydevDevice) (count ppos : Nat)
    (bounded : d.len ≤ bufSize) (admitted : ppos < loffLimit) (range : Range)
    (reached : readRange word d count ppos = some range) : range.Inside := by
  have small : d.len ≤ 1024 := bounded
  have place : ppos < 2 ^ 63 := admitted
  have length : word.mixed (d.len : Int) = d.len := word.mixed_exact _ (by omega) (by omega)
  have position : word.mixed (ppos : Int) = ppos := word.mixed_exact _ (by omega) (by omega)
  simp only [readRange, length, position, Int.ofNat_le] at reached
  by_cases past : d.len ≤ ppos
  · rw [if_pos past] at reached
    contradiction
  · have clamp := clamp_exact word d.len ppos count bounded (Nat.lt_of_not_le past)
    rw [if_neg past, clamp, Option.some.injEq] at reached
    rw [← reached, Range.Inside]
    simp only
    omega

/-- The range of a write ends inside the buffer. -/
theorem write_range_inside (word : Word) (count ppos : Nat) (range : Range)
    (reached : writeRange word count ppos = some range) : range.Inside := by
  simp only [writeRange] at reached
  by_cases past : bufSize ≤ ppos
  · rw [if_pos past] at reached
    contradiction
  · have clamp := clamp_exact word bufSize ppos count (Nat.le_refl _) (Nat.lt_of_not_le past)
    rw [if_neg past, clamp, Option.some.injEq] at reached
    rw [← reached, Range.Inside]
    simp only
    omega

/-- The range of `data_show` is the content. -/
theorem show_range_exact (d : MydevDevice) (bounded : d.len ≤ bufSize) :
    showRange d = ⟨0, d.len⟩ := by
  have small : d.len ≤ 1024 := bounded
  have precision : wrapSigned 32 (d.len : Int) = d.len := by
    simp only [wrapSigned, Int.bmod_def]
    omega
  simp only [showRange, precision, Int.toNat_natCast, precisionMax, Range.mk.injEq, true_and]
  omega

/-- In a state whose contents fit, every call stays inside the buffers. -/
theorem ranges_inside (word : Word) (system : System) (bounded : Bounded system.devices)
    (call : Call) (range : Range) (touched : range ∈ ranges word system call) :
    range.Inside := by
  cases call with
  | openFile | release | llseek | statsShow => exact absurd touched List.not_mem_nil
  | read file place count room interrupted =>
    simp only [ranges] at touched
    split at touched
    · exact absurd touched List.not_mem_nil
    · rename_i admitted
      cases opened : system.privateData file with
      | none =>
        rw [opened] at touched
        exact absurd touched List.not_mem_nil
      | some minor =>
        rw [opened] at touched
        cases interrupted with
        | true => exact absurd touched List.not_mem_nil
        | false =>
          exact read_range_inside word (system.devices minor) _ _ (bounded minor)
            (Nat.lt_of_not_le admitted) range (Option.mem_toList.mp touched)
  | write file place count source interrupted =>
    simp only [ranges] at touched
    split at touched
    · exact absurd touched List.not_mem_nil
    · cases opened : system.privateData file with
      | none =>
        rw [opened] at touched
        exact absurd touched List.not_mem_nil
      | some minor =>
        rw [opened] at touched
        cases interrupted with
        | true => exact absurd touched List.not_mem_nil
        | false => exact write_range_inside word _ _ range (Option.mem_toList.mp touched)
  | dataShow minor interrupted =>
    cases interrupted with
    | true => exact absurd touched List.not_mem_nil
    | false =>
      rw [List.mem_singleton.mp touched, show_range_exact _ (bounded minor), Range.Inside]
      simp only [Nat.zero_add]
      exact bounded minor
  | dataStore minor input interrupted =>
    cases interrupted with
    | true => exact absurd touched List.not_mem_nil
    | false =>
      rw [List.mem_singleton.mp touched, storeRange, Range.Inside]
      simp only [Nat.zero_add]
      split <;> omega
  | resetStore minor count interrupted =>
    cases interrupted with
    | true => exact absurd touched List.not_mem_nil
    | false =>
      rw [List.mem_singleton.mp touched, resetRange, Range.Inside, Nat.zero_add]

/-- A copy from the user stores nothing outside its range. -/
theorem copy_outside (memory : Memory) (source : UserSource) (range : Range) (index : Nat)
    (outside : index < range.start ∨ range.start + range.count ≤ index) :
    (copyFromUser memory range.start source range.count).1 index = memory index := by
  have landed := source.landed_length_le range.count
  exact store_outside memory range.start _ index (by omega)

/-- Replacing one device keeps a byte of every buffer if it keeps that byte. -/
theorem update_keeps_byte (devices : Devices) (minor : Minor) (device : MydevDevice) (index : Nat)
    (kept : device.buf index = (devices minor).buf index) (other : Minor) :
    (Function.update devices minor device other).buf index = (devices other).buf index := by
  by_cases same : other = minor
  · rw [same, Function.update_self]
    exact kept
  · rw [Function.update_of_ne same]

/-- A write under the lock stores nothing outside its range. -/
theorem write_outside (word : Word) (devices : Devices) (minor : Minor) (source : UserSource)
    (count ppos index : Nat)
    (outside : ∀ range, writeRange word count ppos = some range →
      index < range.start ∨ range.start + range.count ≤ index) (other : Minor) :
    ((mydevWrite word devices (some minor) source count ppos false).state other).buf index =
      (devices other).buf index := by
  rw [mydev_write_range]
  cases reached : writeRange word count ppos with
  | none => rfl
  | some range =>
    have copied := copy_outside (devices minor).buf source range index (outside range reached)
    simp only
    split <;> exact update_keeps_byte devices minor _ index copied other

/-- Every call stores nothing outside its ranges, whatever its copies deliver. -/
theorem step_outside (word : Word) (system : System) (call : Call) (index : Nat)
    (outside : ∀ range ∈ ranges word system call,
      index < range.start ∨ range.start + range.count ≤ index) (minor : Minor) :
    ((step word system call).1.devices minor).buf index = (system.devices minor).buf index := by
  cases call with
  | openFile | release | llseek | dataShow | statsShow => rfl
  | read file place count room interrupted =>
    simp only [step]
    split <;> rfl
  | write file place count source interrupted =>
    simp only [step, ranges] at outside ⊢
    split at outside
    · rename_i refused
      rw [if_pos refused]
    · rename_i admitted
      rw [if_neg admitted]
      cases opened : system.privateData file with
      | none => rfl
      | some opener =>
        cases interrupted with
        | true => rfl
        | false =>
          rw [opened] at outside
          exact write_outside word system.devices opener source _ _ index
            (fun range reached => outside range (Option.mem_toList.mpr reached)) minor
  | dataStore target input interrupted =>
    cases interrupted with
    | true => rfl
    | false =>
      have away := outside (storeRange input) List.mem_cons_self
      have stored : (input.take (storeRange input).count).length ≤ (storeRange input).count :=
        List.length_take_le _ _
      have beyond : index < (storeRange input).start ∨
          (storeRange input).start + (input.take (storeRange input).count).length ≤ index := by
        omega
      simp only [step, data_store_range]
      exact update_keeps_byte system.devices target _ index (store_outside _ _ _ index beyond) minor
  | resetStore target count interrupted =>
    cases interrupted with
    | true => rfl
    | false =>
      have away := outside resetRange List.mem_cons_self
      simp only [step, reset_store_range]
      exact update_keeps_byte system.devices target _ index (fill_outside _ _ _ _ index away) minor

/-- The two families of devices have the same lengths and the same bytes in the ranges.
Everything else in memory may differ. -/
def SameWithin (ranges : List Range) (other devices : Devices) : Prop :=
  ∀ minor, (other minor).len = (devices minor).len ∧
    ∀ range ∈ ranges, ∀ index < range.count,
      (other minor).buf (range.start + index) = (devices minor).buf (range.start + index)

/-- A read under the lock looks at nothing but the length and its range. -/
theorem read_looks_within (word : Word) (other devices : Devices) (minor : Minor)
    (count room ppos : Nat)
    (same : SameWithin (readRange word (devices minor) count ppos).toList other devices) :
    mydevRead word other (some minor) count room ppos false =
      mydevRead word devices (some minor) count room ppos false := by
  obtain ⟨length, bytes⟩ := same minor
  have sameRange : readRange word (other minor) count ppos =
      readRange word (devices minor) count ppos := by
    simp only [readRange, length]
  rw [mydev_read_range, mydev_read_range, sameRange]
  cases reached : readRange word (devices minor) count ppos with
  | none => rfl
  | some range =>
    have agree := bytes range (Option.mem_toList.mpr reached)
    have loaded := (load_eq_iff (other minor).buf (devices minor).buf range.start range.start
      range.count).mpr agree
    simp only [loaded]

/-- What a write under the lock returns does not depend on the buffer. -/
theorem write_looks_nowhere (word : Word) (other devices : Devices) (minor : Minor)
    (source : UserSource) (count ppos : Nat) :
    (mydevWrite word other (some minor) source count ppos false).ret =
      (mydevWrite word devices (some minor) source count ppos false).ret := by
  rw [mydev_write_range, mydev_write_range]
  cases writeRange word count ppos with
  | none => rfl
  | some range =>
    by_cases whole : source.uncopied range.count = 0
    · simp only [copyFromUser, whole, ne_eq, not_true_eq_false, if_false]
    · simp only [copyFromUser, whole, ne_eq, not_false_eq_true, if_true]

/-- `data_show` looks at nothing but the length and its range. -/
theorem show_looks_within (other devices : Devices) (minor : Minor)
    (same : SameWithin [showRange (devices minor)] other devices) :
    dataShow other (some minor) false = dataShow devices (some minor) false := by
  obtain ⟨length, bytes⟩ := same minor
  have agree := bytes (showRange (devices minor)) List.mem_cons_self
  have sameRange : showRange (other minor) = showRange (devices minor) := by
    simp only [showRange, length]
  have loaded := (load_eq_iff (other minor).buf (devices minor).buf _ _ _).mpr agree
  rw [data_show_range, data_show_range, sameRange, loaded]

/-- Every call looks at nothing but the lengths and its ranges: it answers alike
wherever these are the same. -/
theorem step_looks_within (word : Word) (system : System) (call : Call) (other : Devices)
    (same : SameWithin (ranges word system call) other system.devices) :
    (step word { system with devices := other } call).2 = (step word system call).2 := by
  have lengths : ∀ minor, (other minor).len = (system.devices minor).len :=
    fun minor => (same minor).1
  cases call with
  | openFile | release => rfl
  | read file place count room interrupted =>
    simp only [step, ranges] at same ⊢
    split at same
    · rename_i refused
      simp only [if_pos refused]
    · rename_i admitted
      simp only [if_neg admitted]
      cases opened : system.privateData file with
      | none => simp only [mydevRead, underLock_none]
      | some minor =>
        cases interrupted with
        | true => simp only [mydevRead, underLock_interrupted]
        | false =>
          rw [opened] at same
          rw [read_looks_within word other system.devices minor _ room _ same]
  | write file place count source interrupted =>
    simp only [step]
    split
    · rfl
    · cases opened : system.privateData file with
      | none => simp only [mydevWrite, underLock_none]
      | some minor =>
        cases interrupted with
        | true => simp only [mydevWrite, underLock_interrupted]
        | false => rw [write_looks_nowhere word other system.devices minor source]
  | llseek file off whence interrupted =>
    cases opened : system.privateData file with
    | none => simp only [step, opened, mydevLlseek, underLock_none]
    | some minor => simp only [step, opened, mydevLlseek, lengths]
  | dataShow minor interrupted =>
    cases interrupted with
    | true => simp only [step, dataShow, underLock_interrupted]
    | false => exact show_looks_within other system.devices minor same
  | dataStore minor input interrupted => cases interrupted <;> rfl
  | statsShow minor interrupted => simp only [step, statsShow, lengths]
  | resetStore minor count interrupted => cases interrupted <;> rfl

/-- Every file is positioned inside its buffer or at its end. -/
def Positioned (positions : Positions) : Prop := ∀ file, positions file ≤ bufSize

/-- Moving one file inside the buffer keeps all files there. -/
theorem positioned_update (positions : Positions) (file position : Nat)
    (positioned : Positioned positions) (inside : position ≤ bufSize) :
    Positioned (Function.update positions file position) := by
  intro other
  by_cases same : other = file
  · rw [same, Function.update_self]
    exact inside
  · rw [Function.update_of_ne same]
    exact positioned other

/-- Committing an offset that lies inside the buffer whenever the offset of the call
did keeps all files inside it. -/
theorem positioned_commit (positions : Positions) (place : Place) (file offset : Nat)
    (positioned : Positioned positions)
    (inside : place.offset positions file ≤ bufSize → offset ≤ bufSize) :
    Positioned (place.commit positions file offset) := by
  cases place with
  | current => exact positioned_update positions file offset positioned (inside (positioned file))
  | fixed position => exact positioned

/-- The range of a read or a write starts at the position of the call. -/
theorem range_start (word : Word) (d : MydevDevice) (count ppos : Nat) (range : Range)
    (reached : readRange word d count ppos = some range ∨
      writeRange word count ppos = some range) : range.start = ppos := by
  rcases reached with read | write
  · simp only [readRange] at read
    split at read
    · contradiction
    · rw [← Option.some.inj read]
  · simp only [writeRange] at write
    split at write
    · contradiction
    · rw [← Option.some.inj write]

/-- A read that starts inside the buffer ends inside it. -/
theorem mydev_read_offset (word : Word) (devices : Devices) (privateData : Option Minor)
    (count room ppos : Nat) (interrupted : Bool) (bounded : Bounded devices)
    (admitted : ppos < loffLimit) (inside : ppos ≤ bufSize) :
    (mydevRead word devices privateData count room ppos interrupted).offset ≤ bufSize := by
  cases privateData with
  | none => exact inside
  | some minor =>
    cases interrupted with
    | true => exact inside
    | false =>
      rw [mydev_read_range]
      cases reached : readRange word (devices minor) count ppos with
      | none => exact inside
      | some range =>
        have start := range_start word _ count ppos range (Or.inl reached)
        have stop := read_range_inside word _ count ppos (bounded minor) admitted range reached
        rw [Range.Inside, start] at stop
        simp only
        split
        · exact inside
        · exact stop

/-- A write that starts inside the buffer ends inside it. -/
theorem mydev_write_offset (word : Word) (devices : Devices) (privateData : Option Minor)
    (source : UserSource) (count ppos : Nat) (interrupted : Bool) (inside : ppos ≤ bufSize) :
    (mydevWrite word devices privateData source count ppos interrupted).offset ≤ bufSize := by
  cases privateData with
  | none => exact inside
  | some minor =>
    cases interrupted with
    | true => exact inside
    | false =>
      rw [mydev_write_range]
      cases reached : writeRange word count ppos with
      | none => exact inside
      | some range =>
        have start := range_start word (devices minor) count ppos range (Or.inr reached)
        have stop := write_range_inside word count ppos range reached
        rw [Range.Inside, start] at stop
        simp only
        split
        · exact inside
        · exact stop

/-- A seek leaves the position, or sets it to the value that it returns, which lies
inside the buffer. -/
theorem mydev_llseek_position (word : Word) (devices : Devices) (privateData : Option Minor)
    (fPos : Nat) (off whence : Int) (interrupted : Bool) :
    let (ret, position) := mydevLlseek word devices privateData fPos off whence interrupted
    position = fPos ∧ ret < 0 ∨ (position : Int) = ret ∧ position ≤ bufSize := by
  have invalid : -einval < 0 := by decide
  cases privateData with
  | none => exact Or.inl ⟨rfl, invalid⟩
  | some minor =>
    cases interrupted with
    | true => exact Or.inl ⟨rfl, by decide⟩
    | false =>
      simp only [mydevLlseek, underLock_some]
      cases target : newPosition word (devices minor).len fPos off whence with
      | none => exact Or.inl ⟨rfl, invalid⟩
      | some newpos =>
        by_cases refused : newpos < 0 ∨ (bufSize : Int) < newpos
        · simp only [if_pos refused]
          exact Or.inl ⟨trivial, invalid⟩
        · simp only [if_neg refused]
          right
          constructor <;> omega

/-- Every call keeps all files inside their buffers. -/
theorem positioned_kept (word : Word) (system : System) (call : Call)
    (bounded : Bounded system.devices) (positioned : Positioned system.positions) :
    Positioned (step word system call).1.positions := by
  cases call with
  | release | dataShow | dataStore | statsShow | resetStore => exact positioned
  | openFile file minor => exact positioned_update _ file 0 positioned (Nat.zero_le _)
  | read file place count room interrupted =>
    simp only [step]
    split
    · exact positioned
    · rename_i admitted
      exact positioned_commit _ place file _ positioned fun inside =>
        mydev_read_offset word system.devices _ _ room _ interrupted bounded
          (Nat.lt_of_not_le admitted) inside
  | write file place count source interrupted =>
    simp only [step]
    split
    · exact positioned
    · exact positioned_commit _ place file _ positioned fun inside =>
        mydev_write_offset word system.devices _ source _ _ interrupted inside
  | llseek file off whence interrupted =>
    have moved := mydev_llseek_position word system.devices (system.privateData file)
      (system.positions file) off.toInt whence interrupted
    apply positioned_update _ file _ positioned
    rcases moved with ⟨unmoved, _⟩ | ⟨_, inside⟩
    · rw [unmoved]
      exact positioned file
    · exact inside

/-- After every run from loading, all contents fit and all files are in their buffers. -/
theorem positioned_after (word : Word) (memory : Minor → Memory) (calls : List Call) :
    Bounded (after (step word) (loaded memory) calls).devices ∧
      Positioned (after (step word) (loaded memory) calls).positions :=
  invariant_after (step word)
    (fun system => Bounded system.devices ∧ Positioned system.positions)
    (fun system call both =>
      ⟨bounded_kept word system call both.1, positioned_kept word system call both.1 both.2⟩)
    (loaded memory) calls ⟨fun _ => Nat.zero_le _, fun _ => Nat.zero_le _⟩

/-- After every run from loading, whatever the positions, lengths, offsets, counts
and faults of its calls: every content fits its buffer, every file is positioned
inside it or at its end, and whatever call comes next reads and stores its buffer
only at indices below 1024. That the ranges are what a call reads and stores is part
of it: a call answers alike over any memory with the same bytes there, and keeps
every byte that lies in none of them. -/
theorem mydev_bounds (word : Word) (memory : Minor → Memory) (calls : List Call) :
    let system := after (step word) (loaded memory) calls
    (∀ minor, (system.devices minor).len ≤ bufSize) ∧
      (∀ file, 0 ≤ system.positions file ∧ system.positions file ≤ bufSize) ∧
      ∀ call,
        (∀ range ∈ ranges word system call, range.start + range.count ≤ bufSize) ∧
        (∀ other, SameWithin (ranges word system call) other system.devices →
          (step word { system with devices := other } call).2 = (step word system call).2) ∧
        (∀ minor index,
          (∀ range ∈ ranges word system call,
            index < range.start ∨ range.start + range.count ≤ index) →
          ((step word system call).1.devices minor).buf index =
            (system.devices minor).buf index) ∧
        ∀ minor index, bufSize ≤ index →
          ((step word system call).1.devices minor).buf index =
            (system.devices minor).buf index := by
  intro system
  obtain ⟨bounded, positioned⟩ := positioned_after word memory calls
  refine ⟨bounded, fun file => ⟨Nat.zero_le _, positioned file⟩, fun call => ⟨?_, ?_, ?_, ?_⟩⟩
  · exact fun range touched => ranges_inside word system bounded call range touched
  · exact fun other same => step_looks_within word system call other same
  · exact fun minor index outside => step_outside word system call index outside minor
  · intro minor index beyond
    refine step_outside word system call index (fun range touched => ?_) minor
    have inside : range.start + range.count ≤ bufSize :=
      ranges_inside word system bounded call range touched
    omega

end LddExamples.MultiMinorBounds
