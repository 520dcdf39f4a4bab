import LddExamples.KernelInterface
import LddExamples.KeypadQueue

/-!
# The keypad device

The three modules of `002_char_keypad_driver` together: `key_kernel.c` reads and
writes one character a call, `keypad_helper_kernel.c` passes it to and from the
queue, and drops the status of the queue on the way. A read thus returns a character
also when the queue had none, the one that its uninitialised local held, and a write
reports success also when the queue had no room.

Calls run one at a time. The character that a local holds before it is set is part
of the call, and so is what user memory delivers or takes.
-/

namespace LddExamples.KeypadDevice

open Runs KernelInterface
open KeypadQueue (Queue queueInit enqueue dequeue queueEmpty WellFormed contents)

/-- `keypad_inject_event` hands a character to the queue and drops the status, so that
nobody learns of a full queue. -/
def keypadInjectEvent (q : Queue) (key : UInt8) : Queue := (enqueue q key).1

/-- The queue, and what the caller's character then holds. -/
def keypadGetEvent (q : Queue) (key : UInt8) : Queue × UInt8 :=
  let (q, _, key) := dequeue q key
  (q, key)

/-- `keypad_clear_queue`, if it returns. -/
def keypadClearQueue (q : Queue) (item : UInt8) : Option Queue := queueEmpty q item

/-- The loop of `keypad_init` over the bytes of the parameter, up to a zero byte. -/
def enqueueKeymap : Queue → List UInt8 → Queue
  | q, [] => q
  | q, key :: rest => if key = 0 then q else enqueueKeymap (enqueue q key).1 rest

/-- Loading the helper: the queue is initialised, and the characters of the parameter enter
it, if there is one. Those that find no room are dropped. -/
def keypadInit (q : Queue) (keymap : Option (List UInt8)) : Queue :=
  match keymap with
  | none => queueInit q
  | some keymap => enqueueKeymap (queueInit q) keymap

/-- A read of `key_kernel.c`. The character comes from a local that is never initialised,
here the argument, if the queue has none; the read returns 1 all the same. Neither the
length nor the position is looked at. A character that the failing copy does not deliver has
left the queue. -/
def deviceRead (q : Queue) (val : UInt8) (room : Nat) : Queue × Reply :=
  let (q, val) := keypadGetEvent q val
  let (data, missing) := copyToUser [val] room
  if missing ≠ 0 then (q, ⟨-efault, data⟩) else (q, ⟨1, data⟩)

/-- A write takes the first byte only and returns 1, also where the queue has no room for
it. -/
def deviceWrite (q : Queue) (source : UserSource) : Queue × Reply :=
  match copyByteFromUser source with
  | none => (q, ⟨-efault, []⟩)
  | some val => (keypadInjectEvent q val, ⟨1, []⟩)

/-- The one command of the device, and every other number. -/
inductive Command where
  | clearBuf
  | other

/-- The queue and the reply, if the call returns. -/
def deviceIoctl (q : Queue) (command : Command) (item : UInt8) : Option (Queue × Reply) :=
  match command with
  | .clearBuf => (keypadClearQueue q item).map fun q => (q, ⟨0, []⟩)
  | .other => some (q, ⟨0, []⟩)

/-- The calls on the device, each with what its environment decides. -/
inductive Call where
  | deviceRead (val : UInt8) (room : Nat)
  | deviceWrite (source : UserSource)
  | deviceIoctl (command : Command) (item : UInt8)

/-- One call. One that does not return has no reply. -/
def step (q : Queue) : Call → Queue × Option Reply
  | .deviceRead val room =>
      let (q, reply) := deviceRead q val room
      (q, some reply)
  | .deviceWrite source =>
      let (q, reply) := deviceWrite q source
      (q, some reply)
  | .deviceIoctl command item =>
      match deviceIoctl q command item with
      | some (q, reply) => (q, some reply)
      | none => (q, none)

/-- The characters of the parameter: its bytes before the first zero. -/
def keymapChars (keymap : Option (List UInt8)) : List UInt8 :=
  match keymap with
  | none => []
  | some keymap => keymap.takeWhile (fun key => decide (key ≠ 0))

/-- Loading stores as many characters of the parameter as there is room for. -/
theorem enqueue_keymap_contents (q : Queue) (keymap : List UInt8) (wellFormed : WellFormed q) :
    WellFormed (enqueueKeymap q keymap) ∧
      contents (enqueueKeymap q keymap) =
        (contents q ++ keymap.takeWhile (fun key => decide (key ≠ 0))).take 64 := by
  have short : (contents q).length ≤ 64 := by
    have count := wellFormed.countInside
    rw [KeypadQueue.contents_length]
    omega
  have whole : (contents q).take 64 = contents q := List.take_of_length_le short
  induction keymap generalizing q with
  | nil =>
    rw [enqueueKeymap, List.takeWhile_nil, List.append_nil]
    exact ⟨wellFormed, whole.symm⟩
  | cons key rest inductionHypothesis =>
    rw [enqueueKeymap]
    by_cases last : key = 0
    · rw [if_pos last, List.takeWhile_cons, if_neg (by simp [last]), List.append_nil]
      exact ⟨wellFormed, whole.symm⟩
    · rw [if_neg last, List.takeWhile_cons, if_pos (by simp [last])]
      by_cases full : q.count = 64
      · rw [KeypadQueue.enqueue_full q key full]
        obtain ⟨nextFormed, next⟩ := inductionHypothesis q wellFormed short whole
        have length : (contents q).length = 64 := by
          rw [KeypadQueue.contents_length, full]
          rfl
        refine ⟨nextFormed, next.trans ?_⟩
        rw [List.take_append_of_le_length (Nat.le_of_eq length.symm),
          List.take_append_of_le_length (Nat.le_of_eq length.symm)]
      · obtain ⟨next, stored, nextFormed, appended, _⟩ :=
          KeypadQueue.enqueue_room q key wellFormed full
        have nextShort : (contents next).length ≤ 64 := by
          have count := nextFormed.countInside
          rw [KeypadQueue.contents_length]
          omega
        rw [stored]
        obtain ⟨lastFormed, lastContents⟩ := inductionHypothesis next nextFormed nextShort
          (List.take_of_length_le nextShort)
        refine ⟨lastFormed, lastContents.trans ?_⟩
        rw [appended, List.append_assoc, List.singleton_append]

/-- The loaded queue holds the first 64 characters of the parameter. -/
theorem keypad_init_contents (memory : Queue) (keymap : Option (List UInt8)) :
    WellFormed (keypadInit memory keymap) ∧
      contents (keypadInit memory keymap) = (keymapChars keymap).take 64 := by
  obtain ⟨wellFormed, nothing⟩ := KeypadQueue.init_well_formed memory
  cases keymap with
  | none => exact ⟨wellFormed, nothing⟩
  | some keymap =>
    obtain ⟨nextFormed, next⟩ := enqueue_keymap_contents (queueInit memory) keymap wellFormed
    rw [nothing, List.nil_append] at next
    exact ⟨nextFormed, next⟩

/-- What a call does to the queue and replies, from a well-formed queue on. -/
inductive Effect (q : Queue) : Call → Queue → Option Reply → Prop
  /-- A read takes the oldest character, and delivers it unless the copy fails. -/
  | taken (val : UInt8) (room : Nat) (next : Queue) (oldest : UInt8) (some : q.count ≠ 0)
      (front : contents q = oldest :: contents next) :
      Effect q (.deviceRead val room) next
        (.some (if room = 0 then ⟨-efault, []⟩ else ⟨1, [oldest]⟩))
  /-- A read of an empty queue delivers what its local held. -/
  | invented (val : UInt8) (room : Nat) (none : q.count = 0) :
      Effect q (.deviceRead val room) q
        (.some (if room = 0 then ⟨-efault, []⟩ else ⟨1, [val]⟩))
  /-- A write appends its character. -/
  | stored (source : UserSource) (val : UInt8) (next : Queue)
      (copied : copyByteFromUser source = some val) (room : q.count ≠ 64)
      (appended : contents next = contents q ++ [val]) :
      Effect q (.deviceWrite source) next (some ⟨1, []⟩)
  /-- A write to a full queue is acknowledged all the same. -/
  | dropped (source : UserSource) (val : UInt8) (copied : copyByteFromUser source = some val)
      (full : q.count = 64) : Effect q (.deviceWrite source) q (some ⟨1, []⟩)
  /-- A write whose copy fails does nothing. -/
  | refused (source : UserSource) (failed : copyByteFromUser source = none) :
      Effect q (.deviceWrite source) q (some ⟨-efault, []⟩)
  /-- Clearing leaves an empty queue. -/
  | cleared (item : UInt8) (next : Queue) (nothing : contents next = []) :
      Effect q (.deviceIoctl .clearBuf item) next (some ⟨0, []⟩)
  /-- Other commands do nothing. -/
  | ignored (item : UInt8) : Effect q (.deviceIoctl .other item) q (some ⟨0, []⟩)

/-- Every call has one of these effects, and leaves a well-formed queue. -/
theorem step_effect (q : Queue) (call : Call) (wellFormed : WellFormed q) :
    Effect q call (step q call).1 (step q call).2 ∧ WellFormed (step q call).1 := by
  cases call with
  | deviceRead val room =>
    have copied (key : UInt8) (queue : Queue) :
        (if (copyToUser [key] room).2 ≠ 0 then
            (queue, (⟨-efault, (copyToUser [key] room).1⟩ : Reply))
          else (queue, ⟨1, (copyToUser [key] room).1⟩)) =
        (queue, if room = 0 then ⟨-efault, []⟩ else ⟨1, [key]⟩) := by
      cases room with
      | zero => rfl
      | succ room => simp [copyToUser]
    by_cases none : q.count = 0
    · have removed := KeypadQueue.dequeue_empty q val none
      simp only [step, deviceRead, keypadGetEvent, removed, copied]
      exact ⟨.invented val room none, wellFormed⟩
    · obtain ⟨next, oldest, removed, nextFormed, front, _⟩ :=
        KeypadQueue.dequeue_oldest q val wellFormed none
      simp only [step, deviceRead, keypadGetEvent, removed, copied]
      exact ⟨.taken val room next oldest none front, nextFormed⟩
  | deviceWrite source =>
    cases copied : copyByteFromUser source with
    | none =>
      simp only [step, deviceWrite, copied]
      exact ⟨.refused source copied, wellFormed⟩
    | some val =>
      simp only [step, deviceWrite, copied, keypadInjectEvent]
      by_cases full : q.count = 64
      · rw [KeypadQueue.enqueue_full q val full]
        exact ⟨.dropped source val copied full, wellFormed⟩
      · obtain ⟨next, stored, nextFormed, appended, _⟩ :=
          KeypadQueue.enqueue_room q val wellFormed full
        rw [stored]
        exact ⟨.stored source val next copied full appended, nextFormed⟩
  | deviceIoctl command item =>
    cases command with
    | clearBuf =>
      obtain ⟨next, emptied, nextFormed, nothing⟩ := KeypadQueue.queue_empty_ends q item wellFormed
      simp only [step, deviceIoctl, keypadClearQueue, emptied, Option.map_some]
      exact ⟨.cleared item next nothing, nextFormed⟩
    | other => exact ⟨.ignored item, wellFormed⟩

end LddExamples.KeypadDevice
