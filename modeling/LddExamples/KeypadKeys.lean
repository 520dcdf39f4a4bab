import LddExamples.KeypadDevice
import Mathlib.Data.List.Count

/-!
# What becomes of the keys

A key enters the keypad device as a character of the module parameter or by a write
that reports success, and leaves it by a read that delivers it or when the queue is
cleared. The reads deliver only such keys, in order, as long as each of them finds
one; and no key is lost as long as no write meets a full queue and no read fails
after it has taken a key.
-/

namespace LddExamples.KeypadKeys

open Runs KernelInterface KeypadDevice
open KeypadQueue (Queue WellFormed blank contents contents_length)

/-- The key that a call has accepted: a write that returned 1. -/
def acceptedOf (call : Call) (reply : Option Reply) : List UInt8 :=
  match call with
  | .deviceWrite source => if reply = some ⟨1, []⟩ then (copyByteFromUser source).toList else []
  | _ => []

/-- The byte that a call has delivered: a read that returned 1. -/
def deliveredOf (call : Call) (reply : Option Reply) : List UInt8 :=
  match call, reply with
  | .deviceRead _ _, some reply => if reply.ret = 1 then reply.data else []
  | _, _ => []

/-- The characters of all acknowledged writes, in order. -/
def accepted (history : List (Event Queue Call)) : List UInt8 :=
  history.flatMap fun event => acceptedOf event.call (event.reply step)

/-- The bytes of all reads that returned 1, in order, whether or not the queue had one. -/
def delivered (history : List (Event Queue Call)) : List UInt8 :=
  history.flatMap fun event => deliveredOf event.call (event.reply step)

/-- A read whose copy does not fail finds a key in the queue. -/
def FindsKey (event : Event Queue Call) : Prop :=
  match event.call with
  | .deviceRead _ room => room = 0 ∨ event.before.count ≠ 0
  | _ => True

/-- The delivered bytes and then the queued keys are a subsequence of the keys that
the device has been given. -/
def Traceable (given : List UInt8) (history : List (Event Queue Call)) (q : Queue) : Prop :=
  WellFormed q ∧ (delivered history ++ contents q).Sublist (given ++ accepted history)

/-- A call that finds a key, if it is a read, keeps the keys traceable. -/
theorem traceable_kept (given : List UInt8) (history : List (Event Queue Call))
    (event : Event Queue Call) (traceable : Traceable given history event.before)
    (finds : FindsKey event) :
    Traceable given (history ++ [event]) (event.left step) := by
  obtain ⟨q, call⟩ := event
  obtain ⟨wellFormed, sublist⟩ := traceable
  obtain ⟨effect, nextFormed⟩ := step_effect q call wellFormed
  refine ⟨nextFormed, ?_⟩
  simp only [accepted, delivered, List.flatMap_append, List.flatMap_singleton, Event.reply,
    Event.left] at sublist effect ⊢
  generalize (step q call).1 = next at effect ⊢
  generalize (step q call).2 = reply at effect ⊢
  rw [← List.append_assoc]
  cases effect with
  | taken val room next oldest some front =>
    rw [front] at sublist
    simp only [acceptedOf, deliveredOf, List.append_nil]
    by_cases fails : room = 0
    · rw [if_pos fails, if_neg (by decide), List.append_nil]
      refine List.Sublist.trans ?_ sublist
      exact (List.sublist_cons_self _ _).append_left _
    · rw [if_neg fails, if_pos rfl, List.append_assoc, List.singleton_append]
      exact sublist
  | invented val room none =>
    have fails : room = 0 := finds.resolve_right fun some => some none
    simp only [acceptedOf, deliveredOf, List.append_nil]
    rw [if_pos fails, if_neg (by decide), List.append_nil]
    exact sublist
  | stored source val next copied room appended =>
    simp only [acceptedOf, deliveredOf, copied, if_true, Option.toList_some, List.append_nil,
      appended]
    rw [← List.append_assoc]
    exact sublist.append_right [val]
  | dropped source val copied full =>
    simp only [acceptedOf, deliveredOf, copied, if_true, Option.toList_some, List.append_nil]
    exact sublist.trans (List.sublist_append_left _ _)
  | refused source failed =>
    simp only [acceptedOf, deliveredOf, failed, Option.toList_none, ite_self, List.append_nil]
    exact sublist
  | cleared item next nothing =>
    simp only [acceptedOf, deliveredOf, nothing, List.append_nil]
    exact (List.sublist_append_left _ _).trans sublist
  | ignored item =>
    simp only [acceptedOf, deliveredOf, List.append_nil]
    exact sublist

/-- In every run in which each read finds a key, the delivered bytes are a subsequence
of the characters of the parameter followed by the bytes that writes have accepted. -/
theorem delivered_are_keys (memory : Queue) (keymap : Option (List UInt8)) (calls : List Call)
    (finds : ∀ event ∈ trace step (keypadInit memory keymap) calls, FindsKey event) :
    (delivered (trace step (keypadInit memory keymap) calls)).Sublist
      (keymapChars keymap ++ accepted (trace step (keypadInit memory keymap) calls)) := by
  obtain ⟨wellFormed, stored⟩ := keypad_init_contents memory keymap
  have start : Traceable (keymapChars keymap) [] (keypadInit memory keymap) := by
    refine ⟨wellFormed, ?_⟩
    simp only [delivered, accepted, List.flatMap_nil, List.nil_append, List.append_nil, stored]
    exact List.take_sublist _ _
  have traceable := history_along step (Traceable (keymapChars keymap)) (fun _ => FindsKey)
    (traceable_kept (keymapChars keymap)) (keypadInit memory keymap) calls start
    ((at_each_call_iff step _ calls FindsKey).mpr finds) calls List.prefix_rfl
  exact (List.sublist_append_left _ _).trans traceable.2

/-- How a key has left the queue. -/
inductive Fate where
  | delivered
  | cleared
deriving DecidableEq

/-- The keys that a call has removed from the queue and accounted for: a read that
delivers the oldest key, and the clearing of all of them. A read of the empty queue
removes none, whatever it returns. -/
def removedOf (q : Queue) (call : Call) (reply : Option Reply) : List (UInt8 × Fate) :=
  match call with
  | .deviceRead _ _ =>
      match contents q with
      | [] => []
      | oldest :: _ => if reply = some ⟨1, [oldest]⟩ then [(oldest, .delivered)] else []
  | .deviceIoctl .clearBuf _ => (contents q).map fun key => (key, .cleared)
  | _ => []

/-- All removals of a history, in order. -/
def removed (history : List (Event Queue Call)) : List (UInt8 × Fate) :=
  history.flatMap fun event => removedOf event.before event.call (event.reply step)

/-- How many keys have left the queue in one way. -/
def fates (history : List (Event Queue Call)) (fate : Fate) : Nat :=
  (removed history).countP fun removal => decide (removal.2 = fate)

/-- Every key that the loaded queue held or that was accepted since has left the
queue or is still in it, in the order in which the keys came; and their numbers add
up. Keys count as delivered that a read took from the queue, not every read that
returned 1: the byte of a read that finds the queue empty was never accepted. -/
structure Conserved (loaded : Queue) (history : List (Event Queue Call)) (q : Queue) : Prop where
  inOrder : contents loaded ++ accepted history =
    (removed history).map Prod.fst ++ contents q
  counted : (contents loaded).length + (accepted history).length =
    fates history .delivered + (contents q).length + fates history .cleared

/-- A key that has left the queue was delivered or cleared. -/
theorem fates_total (history : List (Event Queue Call)) :
    fates history .delivered + fates history .cleared = (removed history).length := by
  have other (removal : UInt8 × Fate) :
      decide (removal.2 = .cleared) = !decide (removal.2 = .delivered) := by
    obtain ⟨key, fate⟩ := removal
    cases fate <;> rfl
  have split := List.length_eq_countP_add_countP (l := removed history)
    (fun removal => decide (removal.2 = .delivered))
  rw [split, fates, fates]
  congr 1
  apply List.countP_congr
  intro removal _
  rw [other]
  simp

/-- The order of the keys decides their numbers. -/
theorem conserved_iff (loaded : Queue) (history : List (Event Queue Call)) (q : Queue) :
    Conserved loaded history q ↔
      contents loaded ++ accepted history = (removed history).map Prod.fst ++ contents q := by
  refine ⟨Conserved.inOrder, fun inOrder => ⟨inOrder, ?_⟩⟩
  have total := fates_total history
  have lengths := congrArg List.length inOrder
  rw [List.length_append, List.length_append, List.length_map] at lengths
  omega

/-- No key is lost in the call: a write whose copy succeeds does not meet a full queue,
and a read whose copy fails meets an empty one. -/
def KeepsKeys (event : Event Queue Call) : Prop :=
  match event.call with
  | .deviceWrite source => copyByteFromUser source = none ∨ event.before.count ≠ 64
  | .deviceRead _ room => room ≠ 0 ∨ event.before.count = 0
  | .deviceIoctl _ _ => True

/-- While the keys are conserved, a call conserves them exactly when it loses none.

Proof: by cases on the effect of the call. One that loses a key lengthens one side of
the account and not the other. -/
theorem step_conserves_iff (loaded : Queue) (history : List (Event Queue Call))
    (event : Event Queue Call) (wellFormed : WellFormed event.before)
    (conserved : Conserved loaded history event.before) :
    Conserved loaded (history ++ [event]) (event.left step) ↔ KeepsKeys event := by
  obtain ⟨q, call⟩ := event
  have effect := (step_effect q call wellFormed).1
  have inOrder := conserved.inOrder
  rw [conserved_iff]
  simp only [accepted, removed, List.flatMap_append, List.flatMap_singleton, List.map_append,
    Event.reply, Event.left] at inOrder ⊢
  generalize (step q call).1 = next at effect ⊢
  generalize (step q call).2 = reply at effect ⊢
  rw [← List.append_assoc, inOrder]
  have length := contents_length q
  have count := wellFormed.countInside
  cases effect with
  | taken val room next oldest some front =>
    by_cases fails : room = 0
    · have lost : ¬ KeepsKeys ⟨q, .deviceRead val room⟩ :=
        fun keeps => keeps.elim (fun succeeds => succeeds fails) some
      refine ⟨fun same => ?_, fun keeps => absurd keeps lost⟩
      have lengths := congrArg List.length same
      simp [acceptedOf, removedOf, front, fails] at lengths
    · refine ⟨fun _ => Or.inl fails, fun _ => ?_⟩
      simp [acceptedOf, removedOf, front, fails]
  | invented val room none =>
    have empty : contents q = [] := List.length_eq_zero_iff.mp (by omega)
    refine ⟨fun _ => Or.inr none, fun _ => ?_⟩
    simp [acceptedOf, removedOf, empty]
  | stored source val next copied room appended =>
    refine ⟨fun _ => Or.inr room, fun _ => ?_⟩
    simp [acceptedOf, removedOf, copied, appended]
  | dropped source val copied full =>
    have lost : ¬ KeepsKeys ⟨q, .deviceWrite source⟩ := by
      rintro (failed | room)
      · rw [copied] at failed
        contradiction
      · exact room full
    refine ⟨fun same => ?_, fun keeps => absurd keeps lost⟩
    have lengths := congrArg List.length same
    simp [acceptedOf, removedOf, copied] at lengths
  | refused source failed =>
    refine ⟨fun _ => Or.inl failed, fun _ => ?_⟩
    simp [acceptedOf, removedOf]
  | cleared item next nothing =>
    refine ⟨fun _ => trivial, fun _ => ?_⟩
    simp [acceptedOf, removedOf, nothing, Function.comp_def]
  | ignored item =>
    refine ⟨fun _ => trivial, fun _ => ?_⟩
    simp [acceptedOf, removedOf]

/-- In every run, each key is at every point of it delivered, cleared or queued, each
once and in the order of their arrival, and their numbers add up, exactly when no
write of the run whose copy succeeds meets a full queue and no read of the run whose
copy fails meets a key. -/
theorem keys_conserved_iff (memory : Queue) (keymap : Option (List UInt8)) (calls : List Call) :
    AtEachState step (keypadInit memory keymap) calls (Conserved (keypadInit memory keymap)) ↔
      ∀ event ∈ trace step (keypadInit memory keymap) calls, KeepsKeys event := by
  have wellFormed := (keypad_init_contents memory keymap).1
  have start : Conserved (keypadInit memory keymap) [] (keypadInit memory keymap) :=
    (conserved_iff _ _ _).mpr (List.append_nil _)
  have conservation := history_throughout_iff step (fun _ => WellFormed)
    (Conserved (keypadInit memory keymap)) (fun _ _ => True) (fun _ => KeepsKeys)
    (fun _ event met _ => (step_effect event.before event.call met).2)
    (fun history event met _ conserved =>
      step_conserves_iff (keypadInit memory keymap) history event met conserved)
    (keypadInit memory keymap) calls wellFormed start (fun _ _ _ => trivial)
  exact conservation.trans (at_each_call_iff step (keypadInit memory keymap) calls KeepsKeys)

/-- A character of the parameter and a written one are read in order. -/
theorem two_keys_delivered :
    (delivered (trace step (keypadInit blank (some [97]))
      [.deviceWrite (.ofBytes [98]), .deviceRead 0 1, .deviceRead 0 1])).Sublist
      (keymapChars (some [97]) ++ accepted (trace step (keypadInit blank (some [97]))
        [.deviceWrite (.ofBytes [98]), .deviceRead 0 1, .deviceRead 0 1])) := by
  apply delivered_are_keys blank (some [97]) _
  rintro event (_ | ⟨_, _ | ⟨_, _ | ⟨_, impossible⟩⟩⟩)
  · trivial
  · exact Or.inr (by decide)
  · exact Or.inr (by decide)
  · contradiction

/-- A read of a device that was never given a key returns 1, and delivers what its
local happened to hold. -/
theorem empty_queue_delivers_local :
    (step (keypadInit blank none) (.deviceRead 7 1)).2 = some ⟨1, [7]⟩ ∧
      ¬ (delivered (trace step (keypadInit blank none) [.deviceRead 7 1])).Sublist
        (keymapChars none ++ accepted (trace step (keypadInit blank none) [.deviceRead 7 1])) := by
  have reply : (step (keypadInit blank none) (.deviceRead 7 1)).2 = some ⟨1, [7]⟩ := by decide
  refine ⟨reply, fun sublist => ?_⟩
  exact absurd sublist.length_le (by decide)

/-- A write to a full queue is acknowledged and changes nothing, so its key is lost. -/
theorem full_queue_drops (q : Queue) (wellFormed : WellFormed q) (full : q.count = 64)
    (key : UInt8) :
    step q (.deviceWrite (.ofBytes [key])) = (q, some ⟨1, []⟩) ∧
      ¬ AtEachState step q [.deviceWrite (.ofBytes [key])] (Conserved q) := by
  have copied : copyByteFromUser (.ofBytes [key]) = some key := rfl
  constructor
  · simp only [step, deviceWrite, copied, keypadInjectEvent, KeypadQueue.enqueue_full q key full]
  · intro throughout
    have start : Conserved q [] q := (conserved_iff _ _ _).mpr (List.append_nil _)
    have left := throughout [.deviceWrite (.ofBytes [key])] List.prefix_rfl
    have keeps := (step_conserves_iff q [] ⟨q, .deviceWrite (.ofBytes [key])⟩ wellFormed
      start).mp left
    rcases keeps with failed | room
    · rw [copied] at failed
      contradiction
    · exact room full

/-- A parameter of 64 characters fills the queue. -/
theorem long_keymap_fills :
    WellFormed (keypadInit blank (some (List.replicate 64 97))) ∧
      (keypadInit blank (some (List.replicate 64 97))).count = 64 := by
  obtain ⟨wellFormed, held⟩ := keypad_init_contents blank (some (List.replicate 64 97))
  have length := congrArg List.length held
  have chars : ((keymapChars (some (List.replicate 64 97))).take 64).length = 64 := by decide
  rw [contents_length, chars] at length
  have count := wellFormed.countInside
  exact ⟨wellFormed, by omega⟩

/-- After such a parameter the first write is acknowledged, and its key is lost. -/
theorem acknowledged_key_lost :
    (step (keypadInit blank (some (List.replicate 64 97))) (.deviceWrite (.ofBytes [98]))).2 =
        some ⟨1, []⟩ ∧
      ¬ AtEachState step (keypadInit blank (some (List.replicate 64 97)))
        [.deviceWrite (.ofBytes [98])]
        (Conserved (keypadInit blank (some (List.replicate 64 97)))) := by
  obtain ⟨wellFormed, full⟩ := long_keymap_fills
  obtain ⟨acknowledged, lost⟩ := full_queue_drops _ wellFormed full 98
  exact ⟨by rw [acknowledged], lost⟩

end LddExamples.KeypadKeys
