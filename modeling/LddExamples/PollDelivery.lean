import LddExamples.PollReadiness

/-!
# Messages through the polled device

A writer sends messages one at a time; a reader polls and reads, with requests of
any positive length, until the event flag is clear, and only then is the next
message written. A write moves the position of the file that writes, not that of
the reader, so the reader of one message stands at its end when the next arrives
and receives only what lies beyond that point.

So every message arrives whole exactly when each message after the first is
written through the reader's own file, at its position: with a separate writer,
when there is only one message.
-/

namespace LddExamples.PollDelivery

open Runs ByteWindows KernelInterface DualPoll PollReadiness

/-- The reader reads while a poll reports input, until the flag is clear. The list
joins the bytes that the reads returned. -/
inductive Drained (files : Files) (reader : Nat) : System → List UInt8 → System → Prop where
  | done (system : System)
      (clear : (system.devices (files.minor reader)).eventFlag = false) :
      Drained files reader system [] system
  | read (system next final : System) (len room : Nat) (told : Reply) (received : List UInt8)
      (reported : ReportsInput (step files system (.poll reader)).2)
      (requested : 0 < len)
      (served : step files system (.read reader .current len room false) = (next, some told))
      (rest : Drained files reader next received final) :
      Drained files reader system (told.data ++ received) final

/-- A drain of a device without an event receives nothing and changes nothing. -/
theorem drained_quiet (files : Files) (reader : Nat) (system final : System)
    (received : List UInt8) (drained : Drained files reader system received final)
    (clear : (system.devices (files.minor reader)).eventFlag = false) :
    received = [] ∧ final = system := by
  cases drained with
  | done => exact ⟨rfl, rfl⟩
  | read _ next _ len room told received reported requested served rest =>
    rw [reports_input_iff, clear] at reported
    exact Bool.noConfusion reported

/-- One read of a pending message stores the bytes over which it moves the reader.
Short of the end the device is as before; at the end the flag is clear. -/
theorem read_moves (files : Files) (reader : Nat) (system next : System) (len room : Nat)
    (told : Reply) (flag : (system.devices (files.minor reader)).eventFlag = true)
    (admitted : system.positions reader < loffLimit)
    (served : step files system (.read reader .current len room false) = (next, some told)) :
    ∃ reached, system.positions reader ≤ reached ∧
      reached ≤ max (system.positions reader) (system.devices (files.minor reader)).bufferSize ∧
      told.data = load (system.devices (files.minor reader)).buffer (system.positions reader)
        (reached - system.positions reader) ∧
      next.positions reader = reached ∧
      ((reached < (system.devices (files.minor reader)).bufferSize ∧
          next.devices (files.minor reader) = system.devices (files.minor reader)) ∨
        ((system.devices (files.minor reader)).bufferSize ≤ reached ∧
          (next.devices (files.minor reader)).eventFlag = false)) := by
  have ready := read_call_ready files system reader .current len room false flag admitted
  obtain ⟨left, reply⟩ := Prod.mk.inj (served.symm.trans ready)
  obtain ⟨forward, reach⟩ := simple_read_offset (system.devices (files.minor reader)).buffer
    (system.devices (files.minor reader)).bufferSize (system.positions reader)
    (min len maxRwCount) room
  refine ⟨_, forward, reach, ?_, ?_, ?_⟩
  · rw [Option.some.inj reply]
    exact simple_read_data _ _ _ _ _
  · simp only [left, Place.commit, Place.offset, Function.update_self]
    rfl
  · simp only [left, Function.update_self]
    rcases read_rest_cases (system.devices (files.minor reader)) (min len maxRwCount) room
        (system.positions reader) with ⟨same, before⟩ | ⟨consumed, ended⟩
    · exact Or.inl ⟨before, same⟩
    · exact Or.inr ⟨ended, congrArg Device.eventFlag consumed⟩

/-- A drain of a pending message receives what lies between the reader's position
and its end, and leaves the reader at the later of the two.

Proof: by induction on the reads. One read stores the bytes over which it moves
the position. If that reaches the end, the flag is clear and the drain is over;
otherwise the device is as before, and what remains is what lies beyond the new
position. -/
theorem drained_exact (files : Files) (reader : Nat) (system final : System)
    (received : List UInt8) (drained : Drained files reader system received final)
    (flag : (system.devices (files.minor reader)).eventFlag = true)
    (fits : (system.devices (files.minor reader)).bufferSize ≤ bufSize)
    (near : system.positions reader ≤ bufSize) :
    received =
        (load (system.devices (files.minor reader)).buffer 0
          (system.devices (files.minor reader)).bufferSize).drop (system.positions reader) ∧
      final.positions reader =
        max (system.positions reader) (system.devices (files.minor reader)).bufferSize := by
  induction drained with
  | done system clear => exact absurd (clear.symm.trans flag) Bool.false_ne_true
  | read system next final len room told received reported requested served rest
      inductionHypothesis =>
    have admitted : system.positions reader < loffLimit :=
      Nat.lt_of_le_of_lt near (by decide)
    obtain ⟨reached, forward, reach, data, moved, outcome⟩ :=
      read_moves files reader system next len room told flag admitted served
    rw [drop_load, Nat.zero_add]
    rcases outcome with ⟨before, same⟩ | ⟨ended, clear⟩
    · obtain ⟨received, final⟩ := inductionHypothesis (same ▸ flag) (same ▸ fits) (by omega)
      rw [same, moved] at received final
      rw [drop_load, Nat.zero_add] at received
      constructor
      · have joined := load_append (system.devices (files.minor reader)).buffer
          (system.positions reader) (reached - system.positions reader)
          ((system.devices (files.minor reader)).bufferSize - reached)
        rw [Nat.add_sub_cancel' forward] at joined
        rw [data, received, joined]
        congr 1
        omega
      · rw [final]
        omega
    · obtain ⟨nothing, same⟩ := drained_quiet files reader next final received rest clear
      rw [nothing, same, List.append_nil, data, moved]
      constructor
      · congr 1
        omega
      · omega

/-- Reads of any one positive length into a valid buffer drain the device.

Proof: by induction on what lies between the reader and the end of the message.
A read short of the end moves the reader. -/
theorem drain_exists (files : Files) (reader len : Nat) (requested : 0 < len) (system : System)
    (wellformed : Wellformed system) :
    ∃ received final, Drained files reader system received final := by
  induction distance : (system.devices (files.minor reader)).bufferSize - system.positions reader
    using Nat.strongRecOn generalizing system with
  | ind distance inductionHypothesis =>
    cases flag : (system.devices (files.minor reader)).eventFlag with
    | false => exact ⟨[], system, .done system flag⟩
    | true =>
      have admitted := wellformed.placed reader
      have served := read_call_ready files system reader .current len len false flag admitted
      have reported := (reports_input_iff files system reader).mpr flag
      obtain ⟨reached, _, _, _, moved, outcome⟩ :=
        read_moves files reader system _ len len _ flag admitted served
      have kept := wellformed_kept files system (.read reader .current len len false) wellformed
      rw [served] at kept
      rcases outcome with ⟨before, same⟩ | ⟨_, clear⟩
      · have progress : system.positions reader < reached := by
          have inside : system.positions reader <
              (system.devices (files.minor reader)).bufferSize := by omega
          have bytes := simple_read_served (system.devices (files.minor reader)).buffer
            (system.devices (files.minor reader)).bufferSize (system.positions reader)
            (min len maxRwCount) len inside (Nat.lt_min.mpr ⟨requested, by decide⟩)
            (Nat.min_le_left _ _)
          rw [← moved]
          simp only [Place.commit, Function.update_self, Place.offset, myReadRest, bytes]
          have positive : 0 < min len maxRwCount := Nat.lt_min.mpr ⟨requested, by decide⟩
          omega
        obtain ⟨received, final, rest⟩ :=
          inductionHypothesis _ (by rw [same, moved]; omega) _ kept rfl
        exact ⟨_, final, .read system _ final len len _ received reported requested served rest⟩
      · exact ⟨_, _, .read system _ _ len len _ [] reported requested served (.done _ clear)⟩

/-- A message and the call that writes it. -/
structure Delivery where
  writer : Nat
  place : Place
  bytes : List UInt8
  nonempty : 0 < bytes.length
  fits : bytes.length ≤ bufSize

/-- The call that writes the whole message from valid user memory. -/
def Delivery.call (delivery : Delivery) : Call :=
  .write delivery.writer delivery.place delivery.bytes.length (.ofBytes delivery.bytes)

/-- Messages written one after the other to the reader's minor, each drained
before the next is written. Each is listed with the bytes that its drain received. -/
inductive Conversation (files : Files) (reader : Nat) :
    System → List (Delivery × List UInt8) → System → Prop where
  | finished (system : System) : Conversation files reader system [] system
  | delivered (system written drained final : System) (delivery : Delivery)
      (received : List UInt8) (later : List (Delivery × List UInt8))
      (sameMinor : files.minor delivery.writer = files.minor reader)
      (wrote : step files system delivery.call =
        (written, some ⟨delivery.bytes.length, []⟩))
      (reads : Drained files reader written received drained)
      (rest : Conversation files reader drained later final) :
      Conversation files reader system ((delivery, received) :: later) final

/-- A drain keeps the system well formed. -/
theorem drained_wellformed (files : Files) (reader : Nat) (system final : System)
    (received : List UInt8) (drained : Drained files reader system received final)
    (wellformed : Wellformed system) : Wellformed final := by
  induction drained with
  | done => exact wellformed
  | read system next final len room told received reported requested served rest
      inductionHypothesis =>
    have kept := wellformed_kept files system (.read reader .current len room false) wellformed
    rw [served] at kept
    exact inductionHypothesis kept

/-- A message's own length is not cut. -/
theorem Delivery.uncut (delivery : Delivery) :
    min (min delivery.bytes.length maxRwCount) bufSize = delivery.bytes.length := by
  have fits : delivery.bytes.length ≤ 128 := delivery.fits
  simp only [maxRwCount, bufSize]
  omega

/-- Any messages, written at the positions of files of the reader's minor, can be
delivered and drained one after the other. -/
theorem conversation_exists (files : Files) (reader : Nat) (deliveries : List Delivery)
    (reachable : ∀ delivery ∈ deliveries,
      files.minor delivery.writer = files.minor reader ∧ delivery.place = .current)
    (start : System) (wellformed : Wellformed start) :
    ∃ exchanges final, exchanges.map Prod.fst = deliveries ∧
      Conversation files reader start exchanges final := by
  induction deliveries generalizing start with
  | nil => exact ⟨[], start, rfl, .finished start⟩
  | cons delivery later inductionHypothesis =>
    obtain ⟨sameMinor, current⟩ := reachable delivery List.mem_cons_self
    have delivers : Delivers start delivery.writer delivery.place delivery.bytes.length
        (.ofBytes delivery.bytes) := by
      refine ⟨current ▸ wellformed.placed delivery.writer, ?_⟩
      rw [delivery.uncut]
      exact UserSource.uncopied_ofBytes delivery.bytes
    have wrote := write_call_delivers files start _ _ _ _ delivers
    rw [delivery.uncut] at wrote
    have written := wellformed_kept files start delivery.call wellformed
    rw [Delivery.call, wrote] at written
    obtain ⟨received, drained, reads⟩ := drain_exists files reader 1 Nat.one_pos _ written
    obtain ⟨exchanges, final, listed, rest⟩ := inductionHypothesis
      (fun other member => reachable other (List.mem_cons_of_mem _ member)) drained
      (drained_wellformed files reader _ _ _ reads written)
    exact ⟨(delivery, received) :: exchanges, final, congrArg (delivery :: ·) listed,
      .delivered start _ drained final delivery received exchanges sameMinor wrote reads rest⟩

/-- Where the reader stands when the message has been written: a write at the
reader's own position moves it to the start, and any other leaves it. -/
def Delivery.meets (delivery : Delivery) (positions : Positions) (reader : Nat) : Nat :=
  delivery.place.commit positions delivery.writer 0 reader

/-- No write moves the reader forward. -/
theorem meets_le (delivery : Delivery) (positions : Positions) (reader bound : Nat)
    (near : positions reader ≤ bound) : delivery.meets positions reader ≤ bound := by
  rw [Delivery.meets]
  by_cases same : reader = delivery.writer
  · cases place : delivery.place with
    | current =>
      rw [Place.commit, same, Function.update_self]
      exact Nat.zero_le bound
    | fixed position => exact near
  · rw [Place.commit_other _ _ _ _ _ same]
    exact near

/-- One exchange: the reader receives the message from where the write left it,
and ends at the later of that position and the message's end. -/
theorem exchange_exact (files : Files) (reader : Nat) (system written drained : System)
    (delivery : Delivery) (received : List UInt8)
    (sameMinor : files.minor delivery.writer = files.minor reader)
    (wrote : step files system delivery.call = (written, some ⟨delivery.bytes.length, []⟩))
    (reads : Drained files reader written received drained)
    (near : delivery.meets system.positions reader ≤ bufSize) :
    received = delivery.bytes.drop (delivery.meets system.positions reader) ∧
      drained.positions reader =
        max (delivery.meets system.positions reader) delivery.bytes.length := by
  have delivers : Delivers system delivery.writer delivery.place delivery.bytes.length
      (.ofBytes delivery.bytes) := by
    by_contra fails
    obtain ⟨buffer, ret, same, negative⟩ := write_call_fails files system _ _ _ _ fails
    have told := Option.some.inj (Prod.mk.inj (same.symm.trans wrote)).2
    have positive := congrArg Reply.ret told
    simp only at positive
    omega
  have left := (Prod.mk.inj (wrote.symm.trans
    (write_call_delivers files system _ _ _ _ delivers))).1
  simp only [delivery.uncut, UserSource.landed_ofBytes, List.take_length, sameMinor] at left
  have message := drained_exact files reader written drained received reads
  simp only [left, Function.update_self] at message
  obtain ⟨bytes, final⟩ := message trivial delivery.fits near
  have stored : load (store (system.devices (files.minor reader)).buffer 0 delivery.bytes) 0
      delivery.bytes.length = delivery.bytes := load_store_same _ 0 _
  rw [stored] at bytes
  exact ⟨bytes, final⟩

/-- The message is written through the reader's own file, at its position. -/
def Delivery.ThroughReader (delivery : Delivery) (reader : Nat) : Prop :=
  delivery.writer = reader ∧ delivery.place = .current

/-- A reader that is not at the start meets a message at the start exactly when it
is written through the reader. -/
theorem meets_start_iff (delivery : Delivery) (positions : Positions) (reader : Nat)
    (passed : 0 < positions reader) :
    delivery.meets positions reader = 0 ↔ delivery.ThroughReader reader := by
  rw [Delivery.meets, Delivery.ThroughReader]
  constructor
  · intro start
    by_contra other
    by_cases same : reader = delivery.writer
    · cases place : delivery.place with
      | current => exact other ⟨same.symm, place⟩
      | fixed position =>
        rw [place, Place.commit] at start
        omega
    · rw [Place.commit_other _ _ _ _ _ same] at start
      omega
  · rintro ⟨same, current⟩
    rw [same, current, Place.commit, Function.update_self]

/-- A message is received whole exactly when the reader meets it at its start. -/
theorem whole_iff (delivery : Delivery) (position : Nat) :
    delivery.bytes.drop position = delivery.bytes ↔ position = 0 := by
  constructor
  · intro whole
    have lengths := congrArg List.length whole
    have nonempty := delivery.nonempty
    rw [List.length_drop] at lengths
    omega
  · rintro rfl
    exact List.drop_zero

/-- In a conversation that starts with the reader past the start, every message is
received whole exactly when every one is written through the reader.

Proof: by induction on the conversation. Whatever a message's length and however
its drain is split, the reader ends it past the start again. -/
theorem later_whole_iff (files : Files) (reader : Nat) (start final : System)
    (exchanges : List (Delivery × List UInt8))
    (conversation : Conversation files reader start exchanges final)
    (passed : 0 < start.positions reader) (near : start.positions reader ≤ bufSize) :
    (∀ exchange ∈ exchanges, exchange.2 = exchange.1.bytes) ↔
      ∀ exchange ∈ exchanges, exchange.1.ThroughReader reader := by
  induction conversation with
  | finished =>
    exact iff_of_true (fun _ member => absurd member List.not_mem_nil)
      (fun _ member => absurd member List.not_mem_nil)
  | delivered system written drained final delivery received later sameMinor wrote reads rest
      inductionHypothesis =>
    have meets : delivery.meets system.positions reader ≤ bufSize :=
      meets_le delivery system.positions reader _ near
    obtain ⟨bytes, moved⟩ := exchange_exact files reader system written drained delivery received
      sameMinor wrote reads meets
    have nonempty := delivery.nonempty
    have fits := delivery.fits
    have continues := inductionHypothesis (by omega) (by omega)
    rw [List.forall_mem_cons, List.forall_mem_cons, continues, bytes, whole_iff,
      meets_start_iff delivery system.positions reader passed]

/-- Every message of a conversation with a reader at the start is received whole
exactly when each message after the first is written through the reader's own
file, at its position. -/
theorem messages_whole_iff (files : Files) (reader : Nat) (start final : System)
    (exchanges : List (Delivery × List UInt8)) (fresh : start.positions reader = 0)
    (conversation : Conversation files reader start exchanges final) :
    (∀ exchange ∈ exchanges, exchange.2 = exchange.1.bytes) ↔
      ∀ exchange ∈ exchanges.tail, exchange.1.ThroughReader reader := by
  cases conversation with
  | finished =>
    exact iff_of_true (fun _ member => absurd member List.not_mem_nil)
      (fun _ member => absurd member List.not_mem_nil)
  | delivered _ written drained _ delivery received later sameMinor wrote reads rest =>
    have start : delivery.meets start.positions reader = 0 :=
      Nat.le_zero.mp (meets_le delivery start.positions reader 0 (Nat.le_of_eq fresh))
    obtain ⟨bytes, moved⟩ := exchange_exact files reader _ written drained delivery received
      sameMinor wrote reads (by rw [start]; exact Nat.zero_le _)
    have nonempty := delivery.nonempty
    have fits := delivery.fits
    have continues := later_whole_iff files reader drained final later rest (by omega) (by omega)
    rw [List.forall_mem_cons, List.tail_cons, ← continues, bytes, start, List.drop_zero]
    exact and_iff_right rfl

/-- Files of the first minor that do not block. -/
def pair : Files := ⟨fun _ => firstMinor, fun _ => true⟩

/-- The messages `A` and `B`, written by file 1. -/
def messageA : Delivery := ⟨1, .current, [65], by decide, by decide⟩

/-- The second message, a `B`. -/
def messageB : Delivery := ⟨1, .current, [66], by decide, by decide⟩

/-- File 0 receives a single message of file 1 whole. -/
theorem one_message_whole :
    ∃ received final, Conversation pair 0 loaded [(messageA, received)] final ∧
      ∀ exchange ∈ [(messageA, received)], exchange.2 = exchange.1.bytes := by
  have conversation : Conversation pair 0 loaded [(messageA, [65])] _ :=
    .delivered _ _ _ _ messageA [65] [] rfl rfl
      (.read _ _ _ 1 1 ⟨1, [65]⟩ [] ⟨_, rfl, by decide⟩ (by decide) rfl (.done _ rfl))
      (.finished _)
  exact ⟨_, _, conversation,
    (messages_whole_iff pair 0 loaded _ _ rfl conversation).mpr (by simp)⟩

/-- Of the second of two messages of file 1, file 0 receives nothing. -/
theorem second_message_lost :
    ¬ ∀ exchanges final, Conversation pair 0 loaded exchanges final →
      ∀ exchange ∈ exchanges, exchange.2 = exchange.1.bytes := by
  intro whole
  have conversation : Conversation pair 0 loaded [(messageA, [65]), (messageB, [])] _ :=
    .delivered _ _ _ _ messageA [65] _ rfl rfl
      (.read _ _ _ 1 1 ⟨1, [65]⟩ [] ⟨_, rfl, by decide⟩ (by decide) rfl (.done _ rfl))
      (.delivered _ _ _ _ messageB [] _ rfl rfl
        (.read _ _ _ 1 1 ⟨0, []⟩ [] ⟨_, rfl, by decide⟩ (by decide) rfl (.done _ rfl))
        (.finished _))
  have second := whole _ _ conversation (messageB, []) (by simp)
  exact absurd second (by decide)

end LddExamples.PollDelivery
