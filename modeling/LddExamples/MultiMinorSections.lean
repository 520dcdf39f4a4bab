import LddExamples.LockedSections
import LddExamples.MultiMinorDevice

/-!
# The multi-minor handlers, one access at a time

The handlers of `010_multi_char_driver/driver.c` as the sections under the lock of their
device that they are. Every look at the length is a step, and so is every byte that a copy,
a format or a reset moves; the steps of any number of threads, on either device, come in
any order. Each device has its own lock, and a section touches its own device alone.

A call carries what its handler has before it waits for the lock, and one whose wait a signal
ends has no section. A seek only looks at the length; the position that it sets belongs to
the open file.
-/

namespace LddExamples.MultiMinorSections

open Runs ByteWindows KernelInterface MultiMinorDevice
open LockedSections hiding step System

/-- What a call returns: a read, write or seek with its offset, or an attribute's reply. -/
inductive Answer where
  | file (served : Served)
  | attribute (reply : Reply)

/-- The calls that reach the lock, with what they have before it. -/
inductive LockCall where
  | read (count room ppos : Nat)
  | write (source : UserSource) (count ppos : Nat)
  | llseek (fPos : Nat) (off whence : Int)
  | dataShow
  | dataStore (input : List UInt8)
  | statsShow
  | resetStore (count : Nat)

/-- What is left once the bytes of a copy are stored. -/
inductive Ending where
  | reply (answer : Answer)
  | extend (count ppos : Nat)
  | setLen (len : Nat) (answer : Answer)

/-- What a section does next, with what it has read so far. -/
inductive Locals where
  | readTest (count room ppos : Nat)
  | readClamp (count room ppos : Nat)
  | copyOut (copied : List UInt8) (left count room ppos : Nat)
  | copyIn (bytes : List UInt8) (index : Nat) (ending : Ending)
  | atEnd (ending : Ending)
  | seekTest (fPos : Nat) (off whence : Int)
  | showLen
  | format (text : List UInt8) (left : Nat)
  | statsLen
  | clearLen (count : Nat)

variable (word : Word)

/-- The rest of the buffer or of the content, as the source clamps a request to it. -/
def clamped (bound ppos count : Nat) : Nat :=
  let rest := word.mixed ((bound : Int) - ppos)
  if rest < count then wrapUnsigned word.bits rest else count

/-- What a read returns after its copy. -/
def readAnswer (copied : List UInt8) (count room ppos : Nat) : Answer :=
  if count - room ≠ 0 then .file ⟨-efault, ppos, copied⟩
  else .file ⟨count, ppos + count, copied⟩

/-- What a seek returns where the device has a content of this length. -/
def seekAnswer (len fPos : Nat) (off whence : Int) : Answer :=
  match newPosition word len fPos off whence with
  | none => .file ⟨-einval, fPos, []⟩
  | some newpos =>
      if newpos < 0 ∨ (bufSize : Int) < newpos then .file ⟨-einval, fPos, []⟩
      else .file ⟨newpos, newpos.toNat, []⟩

/-- One access of the buffer or of the length. -/
def access (d : MydevDevice) : Locals → MydevDevice × Progress Locals Answer
  | .readTest count room ppos =>
      if word.mixed d.len ≤ word.mixed ppos then (d, .ends (.file ⟨0, ppos, []⟩))
      else (d, .goesOn (.readClamp count room ppos))
  | .readClamp count room ppos =>
      let count := clamped word d.len ppos count
      (d, .goesOn (.copyOut [] (min room count) count room ppos))
  | .copyOut copied left count room ppos =>
      match left with
      | 0 => (d, .ends (readAnswer copied count room ppos))
      | left + 1 =>
          (d, .goesOn (.copyOut (copied ++ [d.buf (ppos + copied.length)]) left count room ppos))
  | .copyIn bytes index ending =>
      match bytes with
      | [] => (d, .goesOn (.atEnd ending))
      | byte :: bytes =>
          ({ d with buf := store d.buf index [byte] }, .goesOn (.copyIn bytes (index + 1) ending))
  | .atEnd ending =>
      match ending with
      | .reply answer => (d, .ends answer)
      | .extend count ppos =>
          if word.mixed d.len < word.mixed ppos then
            ({ d with len := wrapUnsigned word.bits ppos }, .ends (.file ⟨count, ppos, []⟩))
          else (d, .ends (.file ⟨count, ppos, []⟩))
      | .setLen len answer => ({ d with len := len }, .ends answer)
  | .seekTest fPos off whence => (d, .ends (seekAnswer word d.len fPos off whence))
  | .showLen => (d, .goesOn (.format [] (min (wrapSigned 32 d.len).toNat precisionMax)))
  | .format text left =>
      match left with
      | 0 => (d, .ends (.attribute (sysfsEmit (text ++ [newline]))))
      | left + 1 =>
          let byte := d.buf text.length
          if byte = 0 then (d, .ends (.attribute (sysfsEmit (text ++ [newline]))))
          else (d, .goesOn (.format (text ++ [byte]) left))
  | .statsLen =>
      (d, .ends (.attribute (sysfsEmit (lenLabel ++ decimalBytes d.len ++ [newline]))))
  | .clearLen count =>
      ({ d with len := 0 },
        .goesOn (.copyIn (List.replicate bufSize 0) 0 (.reply (.attribute ⟨count, []⟩))))

/-- The accesses that a section has left, at most, where a copy or a format has at most
this many. -/
def accessesLeft : Locals → Nat
  | .readTest _ room _ => room + 2
  | .readClamp _ room _ => room + 1
  | .copyOut _ left _ _ _ => left
  | .copyIn bytes _ _ => bytes.length + 1
  | .atEnd _ => 0
  | .seekTest _ _ _ => 0
  | .showLen => precisionMax + 1
  | .format _ left => left
  | .statsLen => 0
  | .clearLen _ => bufSize + 2

/-- Every access that does not end its section leaves fewer. -/
theorem accesses_shrink (d : MydevDevice) (locals : Locals) (next : MydevDevice) (rest : Locals)
    (went : access word d locals = (next, .goesOn rest)) :
    accessesLeft rest < accessesLeft locals := by
  cases locals with
  | readTest count room ppos =>
    simp only [access] at went
    split at went
    · simp at went
    · rw [← Progress.goesOn.inj (Prod.mk.inj went).2]
      exact Nat.lt_succ_self _
  | readClamp count room ppos =>
    rw [← Progress.goesOn.inj (Prod.mk.inj went).2]
    exact Nat.lt_succ_of_le (Nat.min_le_left _ _)
  | copyOut copied left count room ppos =>
    cases left with
    | zero => simp [access] at went
    | succ left =>
      rw [← Progress.goesOn.inj (Prod.mk.inj went).2]
      exact Nat.lt_succ_self _
  | copyIn bytes index ending =>
    cases bytes with
    | nil =>
      rw [← Progress.goesOn.inj (Prod.mk.inj went).2]
      exact Nat.lt_succ_self _
    | cons byte bytes =>
      rw [← Progress.goesOn.inj (Prod.mk.inj went).2]
      exact Nat.lt_succ_self _
  | atEnd ending =>
    cases ending with
    | extend count ppos =>
      simp only [access] at went
      split at went <;> simp at went
    | reply | setLen => simp [access] at went
  | seekTest | statsLen => simp [access] at went
  | showLen =>
    rw [← Progress.goesOn.inj (Prod.mk.inj went).2]
    exact Nat.lt_succ_of_le (Nat.min_le_right _ _)
  | format text left =>
    cases left with
    | zero => simp [access] at went
    | succ left =>
      simp only [access] at went
      split at went
      · simp at went
      · rw [← Progress.goesOn.inj (Prod.mk.inj went).2]
        exact Nat.lt_succ_self _
  | clearLen count =>
    rw [← Progress.goesOn.inj (Prod.mk.inj went).2]
    simp only [accessesLeft, List.length_replicate]
    omega

/-- Where a write goes on once its bytes are stored. -/
def writeEnding (source : UserSource) (count ppos : Nat) : Ending :=
  if source.uncopied count ≠ 0 then .reply (.file ⟨-efault, ppos, []⟩)
  else .extend count (ppos + count)

/-- The handlers by the accesses of their sections, in the order of the source. -/
def code : Code MydevDevice LockCall Locals Answer where
  start
    | .read count room ppos => .readTest count room ppos
    | .write source count ppos =>
        if bufSize ≤ ppos then .atEnd (.reply (.file ⟨-enospc, ppos, []⟩))
        else
          let count := clamped word bufSize ppos count
          .copyIn (source.landed count) ppos (writeEnding source count ppos)
    | .llseek fPos off whence => .seekTest fPos off whence
    | .dataShow => .showLen
    | .dataStore input =>
        let count := if bufSize < input.length then bufSize else input.length
        .copyIn (input.take count) 0 (.setLen count (.attribute ⟨count, []⟩))
    | .statsShow => .statsLen
    | .resetStore count => .clearLen count
  access := access word
  left := accessesLeft
  shrinks := accesses_shrink word

/-- The handler of a device at once, where every device is this one. -/
def handle (d : MydevDevice) : LockCall → MydevDevice × Answer
  | .read count room ppos =>
      (d, .file (mydevRead word (fun _ => d) (some firstMinor) count room ppos false))
  | .write source count ppos =>
      let stored := mydevWrite word (fun _ => d) (some firstMinor) source count ppos false
      (stored.state firstMinor, .file ⟨stored.ret, stored.offset, []⟩)
  | .llseek fPos off whence =>
      let (ret, fPos) := mydevLlseek word (fun _ => d) (some firstMinor) fPos off whence false
      (d, .file ⟨ret, fPos, []⟩)
  | .dataShow => (d, .attribute (dataShow (fun _ => d) (some firstMinor) false))
  | .dataStore input =>
      let (devices, ret) := dataStore (fun _ => d) (some firstMinor) input false
      (devices firstMinor, .attribute ⟨ret, []⟩)
  | .statsShow => (d, .attribute (statsShow (fun _ => d) (some firstMinor) false))
  | .resetStore count =>
      let (devices, ret) := resetStore (fun _ => d) (some firstMinor) count false
      (devices firstMinor, .attribute ⟨ret, []⟩)

section Whole

variable (d : MydevDevice)

/-- What a section does once its bytes are stored. -/
def ended (ending : Ending) : MydevDevice × Answer :=
  match ending with
  | .reply answer => (d, answer)
  | .extend count ppos =>
      ({ d with len := if word.mixed d.len < word.mixed ppos then wrapUnsigned word.bits ppos
          else d.len }, .file ⟨count, ppos, []⟩)
  | .setLen len answer => ({ d with len := len }, answer)

/-- A section with its bytes stored ends as it should. -/
theorem whole_at_end (ending : Ending) :
    (code word).whole d (.atEnd ending) = ended word d ending := by
  cases ending with
  | reply answer => exact whole_ends (code word) d d (.atEnd (.reply answer)) answer rfl
  | setLen len answer =>
    exact whole_ends (code word) d { d with len := len } (.atEnd (.setLen len answer)) answer rfl
  | extend count ppos =>
    by_cases longer : word.mixed d.len < word.mixed ppos
    · rw [whole_ends (code word) d { d with len := wrapUnsigned word.bits ppos }
        (.atEnd (.extend count ppos)) (.file ⟨count, ppos, []⟩) (if_pos longer)]
      simp only [ended, if_pos longer]
    · rw [whole_ends (code word) d d (.atEnd (.extend count ppos)) (.file ⟨count, ppos, []⟩)
        (if_neg longer)]
      simp only [ended, if_neg longer]

/-- A copy into the buffer stores its bytes, and its section ends. -/
theorem whole_copy_in (bytes : List UInt8) (index : Nat) (ending : Ending) :
    (code word).whole d (.copyIn bytes index ending) =
      ended word { d with buf := store d.buf index bytes } ending := by
  induction bytes generalizing d index with
  | nil =>
    rw [whole_goes_on (code word) d d (.copyIn [] index ending) (.atEnd ending) rfl, whole_at_end,
      store_nil]
  | cons byte bytes inductionHypothesis =>
    have joined := store_append d.buf index [byte] bytes
    rw [whole_goes_on (code word) d _ (.copyIn (byte :: bytes) index ending) _ rfl,
      inductionHypothesis]
    exact congrArg (fun buf => ended word { d with buf := buf } ending) joined

/-- A copy out of the buffer returns the bytes that follow those it has. -/
theorem whole_copy_out (copied : List UInt8) (left count room ppos : Nat) :
    (code word).whole d (.copyOut copied left count room ppos) =
      (d, readAnswer (copied ++ load d.buf (ppos + copied.length) left) count room ppos) := by
  induction left generalizing copied with
  | zero =>
    rw [whole_ends (code word) d d (.copyOut copied 0 count room ppos) _ rfl, load_zero,
      List.append_nil]
  | succ left inductionHypothesis =>
    have joined := load_append d.buf (ppos + copied.length) 1 left
    rw [whole_goes_on (code word) d d (.copyOut copied (left + 1) count room ppos) _ rfl,
      inductionHypothesis, List.append_assoc, List.length_append, Nat.add_comm left 1, ← joined]
    rfl

/-- A format prints the bytes that follow those it has, up to the first zero byte. -/
theorem whole_format (text : List UInt8) (left : Nat) :
    (code word).whole d (.format text left) =
      (d, .attribute (sysfsEmit (text ++
        (load d.buf text.length left).takeWhile (fun byte => decide (byte ≠ 0)) ++
          [newline]))) := by
  induction left generalizing text with
  | zero =>
    rw [whole_ends (code word) d d (.format text 0) _ rfl, load_zero, List.takeWhile_nil,
      List.append_nil]
  | succ left inductionHypothesis =>
    have first : load d.buf text.length (left + 1) =
        d.buf text.length :: load d.buf (text.length + 1) left := by
      rw [Nat.add_comm left 1, ← load_append]
      rfl
    rw [first]
    by_cases zero : d.buf text.length = 0
    · rw [whole_ends (code word) d d (.format text (left + 1))
        (.attribute (sysfsEmit (text ++ [newline]))) (if_pos zero)]
      simp [zero]
    · rw [whole_goes_on (code word) d d (.format text (left + 1))
        (.format (text ++ [d.buf text.length]) left) (if_neg zero), inductionHypothesis]
      simp [zero]

/-- A read that gets to its copy, with the request clamped to the content. -/
theorem mydev_read_clamped (count room ppos : Nat)
    (inside : ¬ word.mixed d.len ≤ word.mixed ppos) :
    mydevRead word (fun _ => d) (some firstMinor) count room ppos false =
      let count := clamped word d.len ppos count
      if count - room ≠ 0 then ⟨-efault, ppos, load d.buf ppos (min room count)⟩
      else ⟨count, ppos + count, load d.buf ppos (min room count)⟩ := by
  simp only [mydevRead, underLock_some, if_neg inside, copyToUser, load_length, take_load]
  rfl

/-- A write that gets to its copy, with the request clamped to the buffer. -/
theorem mydev_write_clamped (source : UserSource) (count ppos : Nat)
    (inside : ¬ bufSize ≤ ppos) :
    mydevWrite word (fun _ => d) (some firstMinor) source count ppos false =
      let count := clamped word bufSize ppos count
      let buf := store d.buf ppos (source.landed count)
      if source.uncopied count ≠ 0 then
        ⟨Function.update (fun _ => d) firstMinor { d with buf := buf }, -efault, ppos⟩
      else
        ⟨Function.update (fun _ => d) firstMinor ⟨buf, if word.mixed d.len <
            word.mixed (ppos + count : Nat) then wrapUnsigned word.bits (ppos + count : Nat)
            else d.len⟩, count, ppos + count⟩ := by
  simp only [mydevWrite, underLock_some, if_neg inside, copyFromUser]
  rfl

/-- The text of the content, with the length as precision. -/
theorem data_show_format : handle word d .dataShow =
    (d, .attribute (sysfsEmit ((load d.buf 0 (min (wrapSigned 32 d.len).toNat
      precisionMax)).takeWhile (fun byte => decide (byte ≠ 0)) ++ [newline]))) := by
  simp only [handle, dataShow, underLock_some, formatString]

/-- A format starts with the length as its precision. -/
theorem whole_data_show :
    (code word).whole d .showLen = handle word d .dataShow := by
  have went : (code word).access d .showLen =
      (d, .goesOn (.format [] (min (wrapSigned 32 d.len).toNat precisionMax))) := rfl
  have formatted := whole_format word d [] (min (wrapSigned 32 d.len).toNat precisionMax)
  rw [List.length_nil, List.nil_append] at formatted
  rw [whole_goes_on (code word) d d .showLen _ went, data_show_format]
  exact formatted

/-- A reset clears the length before the buffer. -/
theorem whole_reset_store (count : Nat) :
    (code word).whole d (.clearLen count) = handle word d (.resetStore count) := by
  rw [whole_goes_on (code word) d { d with len := 0 } (.clearLen count) _ rfl, whole_copy_in]
  simp only [ended, handle, resetStore, underLock_some, Function.update_self, fill]

/-- A section executed whole is the handler at once. -/
theorem whole_handles (call : LockCall) :
    (code word).whole d ((code word).start call) = handle word d call := by
  cases call with
  | read count room ppos =>
    by_cases past : word.mixed d.len ≤ word.mixed ppos
    · rw [whole_ends (code word) d d ((code word).start (.read count room ppos)) _ (if_pos past)]
      simp only [handle, mydevRead, underLock_some, if_pos past]
    · rw [whole_goes_on (code word) d d ((code word).start (.read count room ppos)) _
        (if_neg past), whole_goes_on (code word) d d (.readClamp count room ppos) _ rfl,
        whole_copy_out]
      rw [handle, mydev_read_clamped word d count room ppos past]
      simp only [List.nil_append, List.length_nil, Nat.add_zero, readAnswer]
      split <;> rfl
  | write source count ppos =>
    by_cases past : bufSize ≤ ppos
    · have refused := whole_at_end word d (.reply (.file ⟨-enospc, ppos, []⟩))
      simp only [code, if_pos past] at refused ⊢
      rw [refused]
      simp only [ended, handle, mydevWrite, underLock_some, if_pos past]
    · have stored := whole_copy_in word d (source.landed (clamped word bufSize ppos count)) ppos
        (writeEnding source (clamped word bufSize ppos count) ppos)
      simp only [code, if_neg past] at stored ⊢
      rw [stored]
      rw [handle, mydev_write_clamped word d source count ppos past]
      simp only [writeEnding]
      split <;> simp only [ended, Function.update_self]
  | llseek fPos off whence =>
    rw [whole_ends (code word) d d ((code word).start (.llseek fPos off whence)) _ rfl]
    simp only [handle, mydevLlseek, underLock_some, seekAnswer]
    cases newPosition word d.len fPos off whence with
    | none => rfl
    | some newpos =>
      simp only
      split <;> rfl
  | dataShow => exact whole_data_show word d
  | dataStore input =>
    have stored := whole_copy_in word d
      (input.take (if bufSize < input.length then bufSize else input.length)) 0
      (.setLen (if bufSize < input.length then bufSize else input.length)
        (.attribute ⟨(if bufSize < input.length then bufSize else input.length : Nat), []⟩))
    simp only [code] at stored ⊢
    rw [stored]
    simp only [ended, handle, dataStore, underLock_some, Function.update_self]
  | statsShow => exact whole_ends (code word) d d ((code word).start .statsShow) _ rfl
  | resetStore count => exact whole_reset_store word d count

end Whole

/-- A handler of one of the devices at once. -/
def handleOn (devices : Devices) (minor : Minor) : LockCall → Devices × Answer
  | .read count room ppos =>
      (devices, .file (mydevRead word devices (some minor) count room ppos false))
  | .write source count ppos =>
      let stored := mydevWrite word devices (some minor) source count ppos false
      (stored.state, .file ⟨stored.ret, stored.offset, []⟩)
  | .llseek fPos off whence =>
      let (ret, fPos) := mydevLlseek word devices (some minor) fPos off whence false
      (devices, .file ⟨ret, fPos, []⟩)
  | .dataShow => (devices, .attribute (dataShow devices (some minor) false))
  | .dataStore input =>
      let (devices, ret) := dataStore devices (some minor) input false
      (devices, .attribute ⟨ret, []⟩)
  | .statsShow => (devices, .attribute (statsShow devices (some minor) false))
  | .resetStore count =>
      let (devices, ret) := resetStore devices (some minor) count false
      (devices, .attribute ⟨ret, []⟩)

/-- A handler looks at its own device and changes no other. -/
theorem handle_on_local (devices : Devices) (minor : Minor) (call : LockCall) :
    handleOn word devices minor call =
      (Function.update devices minor (handle word (devices minor) call).1,
        (handle word (devices minor) call).2) := by
  have same : devices = Function.update devices minor (devices minor) :=
    (Function.update_eq_self minor devices).symm
  cases call with
  | read | llseek | dataShow | statsShow =>
    simp only [handleOn, handle, mydevRead, mydevLlseek, dataShow, statsShow, underLock_some]
    exact congrArg (·, _) same
  | dataStore | resetStore =>
    simp only [handleOn, handle, dataStore, resetStore, underLock_some, Function.update_self]
  | write source count ppos =>
    simp only [handleOn, handle, mydevWrite, underLock_some]
    by_cases past : bufSize ≤ ppos
    · simp only [if_pos past]
      exact congrArg (·, _) same
    · simp only [if_neg past, copyFromUser]
      split <;> split <;> simp only [Function.update_self]

universe u
variable {θ : Type u}

/-- A thread's call of a handler of one device. -/
def handleCall (minor : Minor) (devices : Devices) (entered : θ × LockCall) :
    Devices × (θ × Answer) :=
  let (devices, answer) := handleOn word devices minor entered.2
  (devices, (entered.1, answer))

/-- For every interleaving of the accesses of any threads on the two devices, and for each of
them: its calls are answered, and the running one will be, as its handlers answer them at once
in the order in which they take its lock; whenever its lock is free, it is as these handlers
leave it, and they leave the other device; and every call can still return. -/
theorem interleaved_devices_are_serial [DecidableEq θ] (devices : Devices)
    (actions : List (Minor × Action LockCall θ)) (minor : Minor) :
    let final := after (familyStep (code word)) (fun minor => fresh (devices minor)) actions minor
    let own := actionsOn minor actions
    let entered := entries (code word) (devices minor) own
    answers (code word) (devices minor) own ++ (settled (code word) final).2 =
        replies (handleCall word minor) devices entered ∧
      (final.holder = none →
        answers (code word) (devices minor) own = replies (handleCall word minor) devices entered ∧
          Function.update devices minor final.shared =
            after (handleCall word minor) devices entered) ∧
      ∀ thread, ∃ more,
        (after (LockedSections.step (code word)) final more).stage thread = .idle := by
  intro final own entered
  have alike : ∀ (state : MydevDevice) (other : Devices) (entered : θ × LockCall),
      Function.update devices minor state = other →
        (serialStep (code word) state entered).2 = (handleCall word minor other entered).2 ∧
          Function.update devices minor (serialStep (code word) state entered).1 =
            (handleCall word minor other entered).1 := by
    rintro state _ entered rfl
    simp only [serialStep, whole_handles, handleCall, handle_on_local, Function.update_self,
      Function.update_idem, and_self]
  have component : final = after (LockedSections.step (code word)) (fresh (devices minor)) own :=
    family_component (code word) _ actions minor
  obtain ⟨answered, settles⟩ := run_refines (code word) (handleCall word minor) _ alike
    (devices minor) devices (Function.update_eq_self minor devices) own
  rw [component]
  exact ⟨answered, settles, can_return (code word) _ (run_exclusive (code word) _ own)⟩

end LddExamples.MultiMinorSections
