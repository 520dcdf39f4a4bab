import LddExamples.KernelInterface
import LddExamples.Runs

/-!
# Transfers in chunks

A caller that has more to write than it writes at once goes on from the file position, and
one that wants all of a file reads until a read returns zero. How it cuts its transfers
should not show. For writes to a flat file of limited size this rests on one law: a write,
and another where it ends, are one write of both. For reads it rests on another: each read
serves a first part of what remains, and leaves the rest.
-/

namespace LddExamples.ChunkedTransfers

open Runs ByteWindows KernelInterface

universe u v w
variable {σ : Type u} {α : Type v} {ℓ : Type w}

/-- The memory of a flat file, what is recorded of the length of its content, and a position
in it. -/
structure Flat (ℓ : Type w) where
  memory : Memory
  length : ℓ
  position : Nat

/-- A write below a limit, where the new length is made of the old one and of the end of the
write. At the limit nothing is written. -/
def Flat.write (limit : Nat) (extend : ℓ → Nat → ℓ) (file : Flat ℓ) (bytes : List UInt8) :
    Flat ℓ :=
  if limit ≤ file.position then file
  else
    let kept := bytes.take (limit - file.position)
    ⟨store file.memory file.position kept, extend file.length (file.position + kept.length),
      file.position + kept.length⟩

/-- At the limit nothing is written. -/
theorem write_full (limit : Nat) (extend : ℓ → Nat → ℓ) (file : Flat ℓ) (bytes : List UInt8)
    (full : limit ≤ file.position) : file.write limit extend bytes = file := if_pos full

/-- Below the limit, the bytes are written as far as it. -/
theorem write_inside (limit : Nat) (extend : ℓ → Nat → ℓ) (file : Flat ℓ) (bytes : List UInt8)
    (inside : file.position < limit) :
    file.write limit extend bytes =
      ⟨store file.memory file.position (bytes.take (limit - file.position)),
        extend file.length (file.position + (bytes.take (limit - file.position)).length),
        file.position + (bytes.take (limit - file.position)).length⟩ :=
  if_neg (Nat.not_le_of_lt inside)

/-- Where a write ends. -/
theorem write_position (limit : Nat) (extend : ℓ → Nat → ℓ) (file : Flat ℓ) (bytes : List UInt8) :
    (file.write limit extend bytes).position =
      file.position + min bytes.length (limit - file.position) := by
  by_cases full : limit ≤ file.position
  · rw [write_full limit extend file bytes full]
    omega
  · rw [write_inside limit extend file bytes (Nat.lt_of_not_le full), List.length_take,
      Nat.min_comm]

/-- A length that reaches to the furthest end never exceeds the limit. -/
theorem write_max_length_le (limit : Nat) (file : Flat Nat) (bytes : List UInt8)
    (bounded : file.length ≤ limit) : (file.write limit max bytes).length ≤ limit := by
  by_cases full : limit ≤ file.position
  · rw [write_full limit max file bytes full]
    exact bounded
  · rw [write_inside limit max file bytes (Nat.lt_of_not_le full)]
    simp only [List.length_take]
    omega

/-- Of two ends, the further one alone decides the length. -/
def Absorbs (extend : ℓ → Nat → ℓ) : Prop :=
  ∀ length reached further, reached ≤ further →
    extend (extend length reached) further = extend length further

/-- A write that goes on where another ends is part of one write of both. -/
theorem write_append (limit : Nat) (extend : ℓ → Nat → ℓ) (absorbs : Absorbs extend)
    (file : Flat ℓ) (first second : List UInt8) :
    (file.write limit extend first).write limit extend second =
      file.write limit extend (first ++ second) := by
  by_cases full : limit ≤ file.position
  · simp only [Flat.write, if_pos full]
  · by_cases fills : limit ≤ file.position + first.length
    · -- The first write reaches the limit, and nothing of the second is kept.
      have kept : (first ++ second).take (limit - file.position) =
          first.take (limit - file.position) := List.take_append_of_le_length (by omega)
      have stopped : limit ≤ file.position + (first.take (limit - file.position)).length := by
        rw [List.length_take]
        omega
      simp only [Flat.write, if_neg full, kept, if_pos stopped]
    · have whole : first.take (limit - file.position) = first :=
        List.take_of_length_le (by omega)
      have rest : limit - (file.position + first.length) =
          limit - file.position - first.length := by omega
      have kept : (first ++ second).take (limit - file.position) =
          first ++ second.take (limit - file.position - first.length) := by
        rw [List.take_append, whole]
      have absorbed := absorbs file.length (file.position + first.length)
        (file.position + first.length +
          (second.take (limit - file.position - first.length)).length) (Nat.le_add_right _ _)
      simp only [Flat.write, if_neg full, whole, if_neg fills, kept, rest, store_append,
        List.length_append, ← Nat.add_assoc, absorbed]

/-- The part of a state that is a flat file, and its replacement. -/
structure Handle (σ : Type u) (ℓ : Type w) where
  file : σ → Flat ℓ
  put : σ → Flat ℓ → σ
  file_put : ∀ state flat, file (put state flat) = flat
  put_file : ∀ state, put state (file state) = state
  put_put : ∀ state first second, put (put state first) second = put state second

/-- A write to the file of a handle. -/
def Handle.write (handle : Handle σ ℓ) (limit : Nat) (extend : ℓ → Nat → ℓ) (state : σ)
    (bytes : List UInt8) : σ :=
  handle.put state ((handle.file state).write limit extend bytes)

/-- A write at the limit leaves the state. -/
theorem handle_write_full (handle : Handle σ ℓ) (limit : Nat) (extend : ℓ → Nat → ℓ) (state : σ)
    (bytes : List UInt8) (full : limit ≤ (handle.file state).position) :
    handle.write limit extend state bytes = state := by
  rw [Handle.write, write_full limit extend _ bytes full, handle.put_file]

/-- Two writes through a handle are one write of both lists. -/
theorem handle_write_append (handle : Handle σ ℓ) (limit : Nat) (extend : ℓ → Nat → ℓ)
    (absorbs : Absorbs extend) (state : σ) (first second : List UInt8) :
    handle.write limit extend (handle.write limit extend state first) second =
      handle.write limit extend state (first ++ second) := by
  simp only [Handle.write, handle.file_put, handle.put_put, write_append limit extend absorbs]

/-- Writing chunks that are not empty one after the other leaves the same state as one write
of all of them, from every state that is ready for as many bytes. -/
def WritesJoin (step : σ → α → σ × Reply) (call : List UInt8 → α) (Ready : σ → Nat → Prop) :
    Prop :=
  ∀ state chunks, chunks ≠ [] → (∀ chunk ∈ chunks, chunk ≠ []) →
    Ready state chunks.flatten.length →
      after step state (chunks.map call) = (step state (call chunks.flatten)).1

/-- The writes of a handle join if each is a write to its file, and leaves the state ready
for as many bytes fewer. -/
theorem writes_join (step : σ → α → σ × Reply) (call : List UInt8 → α) (handle : Handle σ ℓ)
    (limit : Nat) (extend : ℓ → Nat → ℓ) (Ready : σ → Nat → Prop) (absorbs : Absorbs extend)
    (fewer : ∀ state count more, Ready state (count + more) → Ready state count)
    (writes : ∀ state bytes, bytes ≠ [] → Ready state bytes.length →
      (step state (call bytes)).1 = handle.write limit extend state bytes)
    (remains : ∀ state bytes more, bytes ≠ [] → Ready state (bytes.length + more) →
      Ready (handle.write limit extend state bytes) more) :
    WritesJoin step call Ready := by
  intro state chunks
  induction chunks generalizing state with
  | nil => exact fun some => absurd rfl some
  | cons chunk rest join =>
    intro _ nonempty ready
    have written := nonempty chunk List.mem_cons_self
    rw [List.flatten_cons, List.length_append] at ready
    have first := writes state chunk written (fewer state _ _ ready)
    cases rest with
    | nil => simp only [List.map_cons, List.map_nil, after_cons, after_nil, List.flatten_cons,
        List.flatten_nil, List.append_nil]
    | cons next later =>
      have further : ∀ other ∈ next :: later, other ≠ [] := fun other member =>
        nonempty other (List.mem_cons_of_mem _ member)
      have readyNext := remains state chunk _ written ready
      have spread : (next :: later).flatten ≠ [] := by
        rw [List.flatten_cons]
        exact List.append_ne_nil_of_left_ne_nil (nonempty next (by simp)) _
      have joined := join _ (List.cons_ne_nil _ _) further readyNext
      rw [List.map_cons, after_cons, first, joined, writes _ _ spread readyNext,
        handle_write_append handle limit extend absorbs, List.flatten_cons]
      refine (writes state _ (List.append_ne_nil_of_left_ne_nil written _) ?_).symm
      rw [List.length_append]
      exact ready

/-- Read with the given lengths until a read returns zero, and join what the reads deliver.
None: a read fails, or none returns zero. -/
def readUntilEnd (step : σ → α → σ × Reply) (call : Nat → α) : σ → List Nat → Option (List UInt8)
  | _, [] => none
  | state, length :: rest =>
      let (next, reply) := step state (call length)
      if reply.ret = 0 then some []
      else if reply.ret < 0 then none
      else (readUntilEnd step call next rest).map (reply.data ++ ·)

/-- From every state that is ready, reads of any positive lengths deliver all that remains
once one returns zero, and one does after as many as there are bytes. -/
def ReadsJoin (step : σ → α → σ × Reply) (call : Nat → α) (Ready : σ → Prop)
    (remaining : σ → List UInt8) : Prop :=
  ∀ state lengths, Ready state → (∀ length ∈ lengths, 0 < length) →
    (∀ bytes, readUntilEnd step call state lengths = some bytes → bytes = remaining state) ∧
      ((remaining state).length < lengths.length →
        readUntilEnd step call state lengths = some (remaining state))

/-- The reads of a state join if each serves a first part of what remains, which is empty
only if nothing remains, and leaves the rest. -/
theorem reads_join (step : σ → α → σ × Reply) (call : Nat → α) (Ready : σ → Prop)
    (remaining : σ → List UInt8)
    (serves : ∀ state length, Ready state → 0 < length →
      ∃ count next, 0 < count ∧ Ready next ∧ remaining next = (remaining state).drop count ∧
        step state (call length) =
          (next, ⟨((remaining state).take count).length, (remaining state).take count⟩)) :
    ReadsJoin step call Ready remaining := by
  intro state lengths
  induction lengths generalizing state with
  | nil =>
    exact fun _ _ => ⟨fun bytes impossible => absurd impossible (by simp [readUntilEnd]),
      fun impossible => absurd impossible (Nat.not_lt_zero _)⟩
  | cons length rest join =>
    intro ready positive
    obtain ⟨count, next, taken, readyNext, left, served⟩ :=
      serves state length ready (positive length List.mem_cons_self)
    obtain ⟨whole, enough⟩ := join next readyNext fun other member =>
      positive other (List.mem_cons_of_mem _ member)
    by_cases ended : remaining state = []
    · have stops : readUntilEnd step call state (length :: rest) = some [] := by
        simp [readUntilEnd, served, ended]
      rw [stops, ended]
      exact ⟨fun bytes same => (Option.some.inj same).symm, fun _ => rfl⟩
    · have present := List.length_pos_iff.mpr ended
      have goes : readUntilEnd step call state (length :: rest) =
          (readUntilEnd step call next rest).map ((remaining state).take count ++ ·) := by
        have moved : ¬ (((remaining state).take count).length : Int) = 0 := by
          rw [List.length_take]
          omega
        have valid : ¬ (((remaining state).take count).length : Int) < 0 := by omega
        simp only [readUntilEnd, served, if_neg moved, if_neg valid]
      rw [goes]
      constructor
      · intro bytes delivered
        obtain ⟨tail, read, rfl⟩ := Option.map_eq_some_iff.mp delivered
        rw [whole tail read, left, List.take_append_drop]
      · intro fewer
        have shorter : (remaining next).length < rest.length := by
          rw [left, List.length_drop]
          simp only [List.length_cons] at fewer
          omega
        rw [enough shorter, left, Option.map_some, List.take_append_drop]

/-- A whole chunk, cut at a limit, is copied completely. -/
theorem chunk_landed (bytes : List UInt8) (limit : Nat) :
    (UserSource.ofBytes bytes).uncopied (bytes.take limit).length = 0 ∧
      (UserSource.ofBytes bytes).landed (bytes.take limit).length = bytes.take limit := by
  constructor
  · simp only [UserSource.uncopied, UserSource.ofBytes, List.length_take]
    omega
  · rw [UserSource.landed_ofBytes, List.length_take, ← List.take_take, List.take_length]

/-- With room for the request, a window read serves a first part of what remains, and ends
where the rest starts. -/
theorem window_read_rest (memory : Memory) (limit offset length room : Nat)
    (roomy : length ≤ room) :
    let rest := load memory offset (limit - offset)
    windowRead memory limit offset length room =
        ⟨(rest.take length).length, offset + (rest.take length).length, rest.take length⟩ ∧
      load memory (offset + (rest.take length).length)
          (limit - (offset + (rest.take length).length)) = rest.drop length := by
  intro rest
  have served : rest.take length = load memory offset (min length (limit - offset)) :=
    take_load memory offset (limit - offset) length
  have success : 0 ≤ (windowRead memory limit offset length room).ret := by
    simp only [windowRead, copyToUser, load_length]
    split
    · exact le_rfl
    · rw [if_neg (by omega)]
      exact Int.natCast_nonneg _
  refine ⟨?_, ?_⟩
  · rw [window_read_success memory limit offset length room success, served, load_length]
  · rw [served, load_length]
    by_cases within : length ≤ limit - offset
    · have left : limit - (offset + min length (limit - offset)) = limit - offset - length := by
        omega
      rw [left, Nat.min_eq_left within]
      exact (drop_load memory offset (limit - offset) length).symm
    · have none : limit - (offset + min length (limit - offset)) = 0 := by omega
      rw [none, load_zero]
      exact (List.drop_eq_nil_of_le (by rw [load_length]; omega)).symm

/-- What remains of a file after its position. -/
def Flat.remaining (file : Flat Nat) : List UInt8 :=
  load file.memory file.position (file.length - file.position)

/-- The reads of a file join if each is a window read at its position, which it moves and
nothing else, and no further than the end. -/
theorem window_reads_join (step : σ → α → σ × Reply) (call : Nat → α) (Ready : σ → Prop)
    (file : σ → Flat Nat) (move : σ → Nat → σ)
    (moved : ∀ state position,
      file (move state position) = ⟨(file state).memory, (file state).length, position⟩)
    (ready : ∀ state position, Ready state →
      position ≤ max (file state).position (file state).length → Ready (move state position))
    (reads : ∀ state length, Ready state →
      let served := windowRead (file state).memory (file state).length (file state).position
        (min length maxRwCount) length
      step state (call length) = (move state served.offset, ⟨served.ret, served.data⟩)) :
    ReadsJoin step call Ready (fun state => (file state).remaining) := by
  apply reads_join
  intro state length isReady positive
  obtain ⟨served, rest⟩ := window_read_rest (file state).memory (file state).length
    (file state).position (min length maxRwCount) length (Nat.min_le_left _ _)
  have requested : 0 < min length maxRwCount := by
    simp only [maxRwCount]
    omega
  have answered := reads state length isReady
  rw [served] at answered
  refine ⟨min length maxRwCount, _, requested, ready state _ isReady ?_, ?_, answered⟩
  · simp only [List.length_take, load_length]
    omega
  · simp only [moved, Flat.remaining]
    exact rest

end LddExamples.ChunkedTransfers
