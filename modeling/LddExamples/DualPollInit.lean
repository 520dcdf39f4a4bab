import LddExamples.KernelInterface
import LddExamples.ResourceLog

/-!
# Loading the polled device

`dev_init` of `014_poll_select/poll.c`, for any number of devices. A kernel call
that returns a number reports its error as a negative one, and a call that returns
a pointer as a pointer whose word lies between -4095 and -1; each succeeds unless it
is the call chosen to fail. The array `my_devices` is memory around which other
words lie, so an index outside it reads some word that this file does not determine.

When a `device_create` fails, the loop that destroys the earlier devices counts
the loop variable down to -1, and the return value is then read at that index.
-/

namespace LddExamples.DualPollInit

open KernelInterface ResourceLog

/-- What loading acquires for the module and for each device. -/
inductive Resource where
  | region
  | cdev
  | myClass
  | device (index : Nat)
deriving DecidableEq

/-- The calls of `dev_init` that can fail, for this many devices. -/
inductive InitCall (deviceCnt : Nat) where
  | allocChrdevRegion
  | cdevAdd
  | classCreate
  | deviceCreate (index : Fin deviceCnt)
deriving DecidableEq

/-- `MAX_ERRNO`, the largest error that a pointer can carry. -/
def maxErrno : Int := 4095

/-- A pointer that carries an error, by its word as a signed number. -/
def isErr (word : Int) : Prop := -maxErrno ≤ word ∧ word < 0

instance (word : Int) : Decidable (isErr word) := inferInstanceAs (Decidable (_ ∧ _))

/-- The word of a pointer to an object. -/
structure ObjectPointer where
  word : Int
  valid : ¬ isErr word

/-- The call chosen to fail, if any, with its error; the pointers that the others
return; and the words at and around `my_devices` before loading. -/
structure Environment (deviceCnt : Nat) where
  failure : Option (InitCall deviceCnt × Errno)
  object : InitCall deviceCnt → ObjectPointer
  words : Int → Int

variable {deviceCnt : Nat}

/-- The error of a call, if it is the one that fails. -/
def Environment.errorOf (environment : Environment deviceCnt) (call : InitCall deviceCnt) :
    Option Errno :=
  match environment.failure with
  | some (failing, error) => if failing = call then some error else none
  | none => none

/-- What a call that returns a number returns. -/
def Environment.number (environment : Environment deviceCnt) (call : InitCall deviceCnt) : Int :=
  match environment.errorOf call with
  | some error => error.ret
  | none => 0

/-- The word of the pointer that a call returns. -/
def Environment.pointer (environment : Environment deviceCnt) (call : InitCall deviceCnt) : Int :=
  match environment.errorOf call with
  | some error => error.ret
  | none => (environment.object call).word

/-- The return value of an initialisation, its log, and the indices at which it has
read `my_devices`. -/
structure Loading where
  ret : Int
  log : List (Entry Resource)
  inspected : List Int

/-- `while (--i >= 0) device_destroy(...)`: the log, and `i` afterwards. -/
def destroyLoop : Nat → List (Entry Resource) × Int
  | 0 => ([], -1)
  | i + 1 =>
      let (log, last) := destroyLoop i
      (.release (.device i) :: log, last)

/-- The loop that creates the devices, from one of them on. -/
def createLoop (environment : Environment deviceCnt) (words : Int → Int) (i : Nat) : Loading :=
  if inside : i < deviceCnt then
    let words := Function.update words i (environment.pointer (.deviceCreate ⟨i, inside⟩))
    if isErr (words i) then
      let (destroyed, last) := destroyLoop i
      ⟨wrapSigned 32 (words last),
        destroyed ++ [.release .myClass, .release .cdev, .release .region], [(i : Int), last]⟩
    else
      let later := createLoop environment words (i + 1)
      ⟨later.ret, .acquire (.device i) :: later.log, i :: later.inspected⟩
  else ⟨0, [], []⟩
termination_by deviceCnt - i

/-- `dev_init`: the region, the character device and the class, and then the loop over the
devices. -/
def devInit (environment : Environment deviceCnt) : Loading :=
  let ret := environment.number .allocChrdevRegion
  if ret < 0 then ⟨ret, [], []⟩
  else
    let ret := environment.number .cdevAdd
    if ret < 0 then ⟨ret, [.acquire .region, .release .region], []⟩
    else
      let myClass := environment.pointer .classCreate
      if isErr myClass then
        ⟨wrapSigned 32 myClass,
          [.acquire .region, .acquire .cdev, .release .cdev, .release .region], []⟩
      else
        let loop := createLoop environment environment.words 0
        ⟨loop.ret, [.acquire .region, .acquire .cdev, .acquire .myClass] ++ loop.log,
          loop.inspected⟩

/-- The first devices, in the order in which they are created. -/
def devices (count : Nat) : List Resource := (List.range count).map .device

/-- Everything that loading acquires, in order. -/
def allResources (deviceCnt : Nat) : List Resource :=
  [.region, .cdev, .myClass] ++ devices deviceCnt

/-- One more device. -/
theorem devices_succ (count : Nat) : devices (count + 1) = devices count ++ [.device count] := by
  rw [devices, List.range_succ, List.map_append, List.map_singleton, devices]

/-- The destroying loop unwinds the devices before its start, and always leaves
the loop variable at -1. -/
theorem destroy_loop_unwinds (i : Nat) : destroyLoop i = (unwinding (devices i), -1) := by
  induction i with
  | zero => rfl
  | succ i inductionHypothesis =>
    rw [destroyLoop, inductionHypothesis, devices_succ, unwinding_append_singleton]

/-- An error pointer carries the number that the error returns. -/
theorem error_pointer (error : Errno) : isErr error.ret ∧ wrapSigned 32 error.ret = error.ret := by
  have positive := error.positive
  have bounded := error.bounded
  constructor
  · simp only [isErr, Errno.ret, maxErrno]
    omega
  · simp only [wrapSigned, Errno.ret, Int.bmod_def]
    omega

/-- A call that is not the failing one reports no error. -/
theorem succeeds (environment : Environment deviceCnt) (call : InitCall deviceCnt)
    (other : ∀ error, environment.failure ≠ some (call, error)) :
    environment.number call = 0 ∧ ¬ isErr (environment.pointer call) := by
  have none : environment.errorOf call = none := by
    cases failure : environment.failure with
    | none => simp only [Environment.errorOf, failure]
    | some pair =>
      obtain ⟨failing, error⟩ := pair
      have different : failing ≠ call := fun same => other error (same ▸ failure)
      simp only [Environment.errorOf, failure, if_neg different]
  simp only [Environment.number, Environment.pointer, none]
  exact ⟨trivial, (environment.object call).valid⟩

/-- The failing call reports its error. -/
theorem fails (environment : Environment deviceCnt) (call : InitCall deviceCnt) (error : Errno)
    (failing : environment.failure = some (call, error)) :
    environment.number call = error.ret ∧ environment.pointer call = error.ret := by
  simp only [Environment.number, Environment.pointer, Environment.errorOf, failing, if_true,
    and_self]

/-- When no device fails, the loop goes on to the last one, and reads the array
only inside it.

Proof: by induction on the devices that remain. -/
theorem create_loop_completes (environment : Environment deviceCnt)
    (succeed : ∀ index error, environment.failure ≠ some (.deviceCreate index, error))
    (words : Int → Int) (i : Nat) (bound : i ≤ deviceCnt) :
    (createLoop environment words i).ret = 0 ∧
      acquiring (devices i) ++ (createLoop environment words i).log =
        acquiring (devices deviceCnt) ∧
      ∀ index ∈ (createLoop environment words i).inspected, 0 ≤ index ∧ index < deviceCnt := by
  induction remaining : deviceCnt - i generalizing words i with
  | zero =>
    have last : i = deviceCnt := by omega
    rw [createLoop, dif_neg (by omega), last]
    exact ⟨rfl, List.append_nil _, fun _ member => absurd member List.not_mem_nil⟩
  | succ remaining inductionHypothesis =>
    have inside : i < deviceCnt := by omega
    have created := (succeeds environment (.deviceCreate ⟨i, inside⟩) (succeed ⟨i, inside⟩)).2
    rw [createLoop, dif_pos inside]
    simp only [Function.update_self, if_neg created]
    obtain ⟨ret, log, inspected⟩ := inductionHypothesis
      (Function.update words i (environment.pointer (.deviceCreate ⟨i, inside⟩))) (i + 1)
      inside (by omega)
    refine ⟨ret, ?_, ?_⟩
    · rw [← log, devices_succ, acquiring, acquiring, List.map_append, List.append_assoc]
      rfl
    · rw [List.forall_mem_cons]
      exact ⟨⟨Int.natCast_nonneg i, Int.ofNat_lt.mpr inside⟩, inspected⟩

/-- When the creation of a device fails, the loop has created the devices before
it, unwinds them and what was acquired before the loop, and reads the array at -1.

Proof: by induction on the devices before the failing one. -/
theorem create_loop_fails (environment : Environment deviceCnt) (failing : Fin deviceCnt)
    (error : Errno) (failure : environment.failure = some (.deviceCreate failing, error))
    (words : Int → Int) (i : Nat) (bound : i ≤ failing) :
    acquiring (devices i) ++ (createLoop environment words i).log =
        acquiring (devices failing) ++ unwinding (devices failing) ++
          unwinding [.region, .cdev, .myClass] ∧
      -1 ∈ (createLoop environment words i).inspected := by
  have inside : i < deviceCnt := Nat.lt_of_le_of_lt bound failing.isLt
  induction remaining : failing.val - i generalizing words i with
  | zero =>
    have here : failing = ⟨i, inside⟩ := Fin.ext (show failing.val = i by omega)
    have reported := (fails environment (.deviceCreate failing) error failure).2
    have isError := (error_pointer error).1
    rw [createLoop, dif_pos inside, ← here]
    simp only [Function.update_self, reported, if_pos isError, destroy_loop_unwinds]
    rw [here, List.append_assoc]
    exact ⟨rfl, List.mem_cons_of_mem _ List.mem_cons_self⟩
  | succ remaining inductionHypothesis =>
    have other : ∀ error, environment.failure ≠ some (.deviceCreate ⟨i, inside⟩, error) := by
      intro reported same
      have index := congrArg Fin.val (InitCall.deviceCreate.inj
        (Prod.mk.inj (Option.some.inj (failure.symm.trans same))).1)
      simp only at index
      omega
    have created := (succeeds environment _ other).2
    rw [createLoop, dif_pos inside]
    simp only [Function.update_self, if_neg created]
    obtain ⟨log, outside⟩ := inductionHypothesis
      (Function.update words i (environment.pointer (.deviceCreate ⟨i, inside⟩))) (i + 1)
      (by omega) (by omega) (by omega)
    refine ⟨?_, List.mem_cons_of_mem _ outside⟩
    rw [← log, devices_succ, acquiring, acquiring, List.map_append, List.append_assoc]
    rfl

/-- How loading should end. It reads the array only inside it. When a call fails, it
has released exactly what it had acquired, each once and in reverse order, and
returns the error; otherwise it holds everything and returns zero. -/
def EndsProperly (environment : Environment deviceCnt) : Prop :=
  (∀ index ∈ (devInit environment).inspected, 0 ≤ index ∧ index < deviceCnt) ∧
    match environment.failure with
    | some (_, error) =>
        replay [] (devInit environment).log = some [] ∧ (devInit environment).ret = error.ret
    | none =>
        replay [] (devInit environment).log = some (allResources deviceCnt).reverse ∧
          (devInit environment).ret = 0

/-- When no call before the loop fails, the loop decides how loading ends. -/
theorem dev_init_loop (environment : Environment deviceCnt)
    (late : ∀ call error, environment.failure = some (call, error) →
      ∃ index, call = .deviceCreate index) :
    devInit environment =
      ⟨(createLoop environment environment.words 0).ret,
        acquiring [.region, .cdev, .myClass] ++ (createLoop environment environment.words 0).log,
        (createLoop environment environment.words 0).inspected⟩ := by
  have early (call : InitCall deviceCnt) (before : ∀ index, call ≠ .deviceCreate index) :
      environment.number call = 0 ∧ ¬ isErr (environment.pointer call) := by
    refine succeeds environment call fun error failed => ?_
    obtain ⟨index, same⟩ := late call error failed
    exact before index same
  have region := (early .allocChrdevRegion (by simp)).1
  have cdev := (early .cdevAdd (by simp)).1
  have classCreated := (early .classCreate (by simp)).2
  simp only [devInit, region, cdev, classCreated, Int.lt_irrefl, if_false]
  rfl

/-- When a call before the loop fails, what was acquired is unwound, the error is
returned and the array is not read. -/
theorem dev_init_early_failure (environment : Environment deviceCnt) (call : InitCall deviceCnt)
    (error : Errno) (failure : environment.failure = some (call, error))
    (early : ∀ index, call ≠ .deviceCreate index) :
    replay [] (devInit environment).log = some [] ∧ (devInit environment).ret = error.ret ∧
      (devInit environment).inspected = [] := by
  have others (other : InitCall deviceCnt) (different : other ≠ call) :
      environment.number other = 0 ∧ ¬ isErr (environment.pointer other) :=
    succeeds environment other fun reported same =>
      different (Prod.mk.inj (Option.some.inj (failure.symm.trans same))).1.symm
  obtain ⟨number, pointer⟩ := fails environment call error failure
  have negative := error.ret_neg
  obtain ⟨isError, narrow⟩ := error_pointer error
  cases call with
  | allocChrdevRegion =>
    simp only [devInit, number, negative, if_true, replay, and_self]
  | cdevAdd =>
    have region := (others .allocChrdevRegion (by simp)).1
    simp only [devInit, region, number, negative, Int.lt_irrefl, if_true, if_false]
    exact ⟨rfl, trivial, trivial⟩
  | classCreate =>
    have region := (others .allocChrdevRegion (by simp)).1
    have cdev := (others .cdevAdd (by simp)).1
    simp only [devInit, region, cdev, pointer, isError, narrow, Int.lt_irrefl, if_true, if_false]
    exact ⟨rfl, trivial, trivial⟩
  | deviceCreate failing => exact absurd rfl (early failing)

/-- When the creation of a device fails, what was acquired is unwound, but the
array is read at -1. -/
theorem dev_init_device_failure (environment : Environment deviceCnt) (failing : Fin deviceCnt)
    (error : Errno) (failure : environment.failure = some (.deviceCreate failing, error)) :
    replay [] (devInit environment).log = some [] ∧ -1 ∈ (devInit environment).inspected := by
  have late : ∀ call reported, environment.failure = some (call, reported) →
      ∃ index, call = .deviceCreate index := by
    intro call reported same
    exact ⟨failing, (Prod.mk.inj (Option.some.inj (failure.symm.trans same))).1.symm⟩
  obtain ⟨log, outside⟩ := create_loop_fails environment failing error failure environment.words 0
    (Nat.zero_le _)
  have loop : (createLoop environment environment.words 0).log =
      acquiring (devices failing) ++ unwinding (devices failing) ++
        unwinding [.region, .cdev, .myClass] := log
  have unwound := replay_unwound ([.region, .cdev, .myClass] ++ devices failing)
  rw [unwinding_append, acquiring_append, List.append_assoc,
    ← List.append_assoc (acquiring (devices failing))] at unwound
  rw [dev_init_loop environment late, loop]
  exact ⟨unwound, outside⟩

/-- Whatever call fails, what was acquired is unwound. -/
theorem dev_init_unwinds (environment : Environment deviceCnt) (call : InitCall deviceCnt)
    (error : Errno) (failure : environment.failure = some (call, error)) :
    replay [] (devInit environment).log = some [] := by
  cases call with
  | deviceCreate failing => exact (dev_init_device_failure environment failing error failure).1
  | allocChrdevRegion | cdevAdd | classCreate =>
    exact (dev_init_early_failure environment _ error failure (by simp)).1

/-- When no call fails, loading ends properly: everything is held. -/
theorem dev_init_completes (environment : Environment deviceCnt)
    (success : environment.failure = none) : EndsProperly environment := by
  have never (call : InitCall deviceCnt) (error : Errno) :
      environment.failure ≠ some (call, error) := by
    rw [success]
    exact nofun
  obtain ⟨ret, log, inspected⟩ := create_loop_completes environment
    (fun index error => never _ error) environment.words 0 (Nat.zero_le _)
  have loop : (createLoop environment environment.words 0).log =
      acquiring (devices deviceCnt) := log
  have held := replay_acquiring [] (allResources deviceCnt)
  rw [List.append_nil, allResources, acquiring_append] at held
  rw [EndsProperly, dev_init_loop environment (fun call error failed =>
    absurd failed (never call error)), success, loop, ret]
  exact ⟨inspected, held, rfl⟩

/-- For every number of devices and every choice of the failing call, loading ends
properly exactly when the failing call, if there is one, is not a `device_create`. -/
theorem ends_properly_iff (deviceCnt : Nat) (environment : Environment deviceCnt) :
    EndsProperly environment ↔
      ∀ index error, environment.failure ≠ some (.deviceCreate index, error) := by
  constructor
  · rintro ⟨inside, _⟩ failing error failure
    have outside := (dev_init_device_failure environment failing error failure).2
    have impossible := (inside (-1) outside).1
    omega
  · intro early
    cases failure : environment.failure with
    | none => exact dev_init_completes environment failure
    | some pair =>
      obtain ⟨call, error⟩ := pair
      obtain ⟨unwound, ret, inspected⟩ := dev_init_early_failure environment call error failure
        (fun index same => early index error (same ▸ failure))
      simp only [EndsProperly, failure, unwound, ret, inspected]
      exact ⟨fun _ member => absurd member List.not_mem_nil, trivial, trivial⟩

/-- Two devices, of which the first cannot be created for lack of memory, in an
array that lies behind a null word. -/
def firstDeviceFails : Environment 2 where
  failure := some (.deviceCreate 0, ⟨12, by decide, by decide⟩)
  object := fun _ => ⟨1, by decide⟩
  words := fun _ => 0

/-- Everything is released, and loading reports success. -/
theorem failed_device_reported_as_success :
    (devInit firstDeviceFails).ret = 0 ∧
      replay [] (devInit firstDeviceFails).log = some [] ∧ ¬ EndsProperly firstDeviceFails := by
  have ret : (devInit firstDeviceFails).ret = 0 := by
    have late : ∀ call error, firstDeviceFails.failure = some (call, error) →
        ∃ index, call = .deviceCreate index := by
      intro call error same
      exact ⟨0, (Prod.mk.inj (Option.some.inj same)).1.symm⟩
    rw [dev_init_loop firstDeviceFails late, createLoop]
    rfl
  refine ⟨ret, dev_init_unwinds firstDeviceFails _ _ rfl, ?_⟩
  rintro ⟨_, _, reported⟩
  rw [ret] at reported
  exact absurd reported (by decide)

end LddExamples.DualPollInit
