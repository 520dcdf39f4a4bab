import LddExamples.DualPollInit
import Mathlib.Data.List.Flatten
import Mathlib.Data.List.Nodup
import Mathlib.Data.List.Perm.Basic

/-!
# Loading and unloading the multi-minor driver

`mydev_init` and `mydev_exit` of `010_multi_char_driver/driver.c`, for any number of
devices in place of `MYDEV_COUNT`. A kernel call that returns a number reports its
error as a negative one, a call that returns a pointer as a pointer that carries it,
and the allocation by a null pointer; each succeeds unless it is the call chosen to
fail. The allocated array is zeroed, so no device has a pointer before its creation.

The labels inside the loop undo the current device, the loop at `err_loop` the
earlier ones, and what follows it the allocation, the class and the region. The
buffers, the locks and the log are left out.
-/

namespace LddExamples.MultiMinorInit

open KernelInterface ResourceLog
open DualPollInit (isErr error_pointer)

/-- The three attributes of a device. -/
inductive Attribute where
  | data
  | stats
  | reset
deriving DecidableEq

/-- What loading acquires for the module and for each device. -/
inductive Resource where
  | region
  | mydevClass
  | mydevs
  | cdev (index : Nat)
  | dev (index : Nat)
  | deviceFile (index : Nat) (attr : Attribute)
deriving DecidableEq

/-- The calls of `mydev_init` that can fail, for this many devices. -/
inductive InitCall (mydevCount : Nat) where
  | allocChrdevRegion
  | classCreate
  | kcalloc
  | cdevAdd (index : Fin mydevCount)
  | deviceCreate (index : Fin mydevCount)
  | deviceCreateFile (index : Fin mydevCount) (attr : Attribute)
deriving DecidableEq

/-- A pointer that carries an error or points nowhere, by its word. -/
def isErrOrNull (word : Int) : Prop := word = 0 ∨ isErr word

instance (word : Int) : Decidable (isErrOrNull word) := inferInstanceAs (Decidable (_ ∨ _))

/-- The word of a pointer to an object. -/
structure ObjectPointer where
  word : Int
  valid : ¬ isErrOrNull word

/-- The call chosen to fail, if any, with its error, and the pointers that the
others return. -/
structure Environment (mydevCount : Nat) where
  failure : Option (InitCall mydevCount × Errno)
  object : InitCall mydevCount → ObjectPointer

variable {mydevCount : Nat}

/-- The error of a call, if it is the one that fails. -/
def Environment.errorOf (environment : Environment mydevCount) (call : InitCall mydevCount) :
    Option Errno :=
  match environment.failure with
  | some (failing, error) => if failing = call then some error else none
  | none => none

/-- What a call that returns a number returns. -/
def Environment.number (environment : Environment mydevCount) (call : InitCall mydevCount) :
    Int :=
  match environment.errorOf call with
  | some error => error.ret
  | none => 0

/-- The word of the pointer that a call returns. -/
def Environment.pointer (environment : Environment mydevCount) (call : InitCall mydevCount) :
    Int :=
  match environment.errorOf call with
  | some error => error.ret
  | none => (environment.object call).word

/-- The word of the pointer that the allocation returns. -/
def Environment.allocation (environment : Environment mydevCount) : Int :=
  match environment.errorOf .kcalloc with
  | some _ => 0
  | none => (environment.object .kcalloc).word

/-- The return value of `mydev_init` and its log. -/
structure Loading where
  ret : Int
  log : List (Entry Resource)

/-- The three `device_remove_file` calls for one device. -/
def removeFiles (i : Nat) : List (Entry Resource) :=
  [.release (.deviceFile i .reset), .release (.deviceFile i .stats), .release (.deviceFile i .data)]

/-- From the label `err_attr` to the end of the turn. -/
def errAttr (i : Nat) : List (Entry Resource) := [.release (.dev i), .release (.cdev i)]

/-- From the label `err_attr_stats` on. -/
def errAttrStats (i : Nat) : List (Entry Resource) :=
  .release (.deviceFile i .data) :: errAttr i

/-- From the label `err_attr_reset` on. -/
def errAttrReset (i : Nat) : List (Entry Resource) :=
  .release (.deviceFile i .stats) :: errAttrStats i

/-- `ret ? ret : -EINVAL` -/
def attributeError (ret : Int) : Int := if ret ≠ 0 then ret else -einval

/-- What one turn of the loop leaves: the `dev` pointers, the return value with
which it goes to `err_loop`, if it does, and its log. -/
structure Turn where
  dev : Nat → Int
  errLoop : Option Int
  log : List (Entry Resource)

/-- One turn of the loop. What each failure undoes of its own device is in the log of the
turn; the earlier devices are left to `err_loop`. -/
def createDevice (environment : Environment mydevCount) (i : Fin mydevCount) (dev : Nat → Int) :
    Turn :=
  let ret := environment.number (.cdevAdd i)
  if ret ≠ 0 then ⟨dev, some ret, []⟩
  else
    let dev := Function.update dev i (environment.pointer (.deviceCreate i))
    if isErr (dev i) then
      ⟨dev, some (wrapSigned 32 (dev i)), [.acquire (.cdev i), .release (.cdev i)]⟩
    else
      let log := [.acquire (.cdev i), .acquire (.dev i)]
      let ret := environment.number (.deviceCreateFile i .data)
      if ret ≠ 0 then ⟨dev, some (attributeError ret), log ++ errAttr i⟩
      else
        let log := log ++ [.acquire (.deviceFile i .data)]
        let ret := environment.number (.deviceCreateFile i .stats)
        if ret ≠ 0 then ⟨dev, some (attributeError ret), log ++ errAttrStats i⟩
        else
          let log := log ++ [.acquire (.deviceFile i .stats)]
          let ret := environment.number (.deviceCreateFile i .reset)
          if ret ≠ 0 then ⟨dev, some (attributeError ret), log ++ errAttrReset i⟩
          else ⟨dev, none, log ++ [.acquire (.deviceFile i .reset)]⟩

/-- `while (--i >= 0)` at `err_loop`. -/
def rollBack (dev : Nat → Int) : Nat → List (Entry Resource)
  | 0 => []
  | i + 1 =>
      (if isErrOrNull (dev i) then [] else removeFiles i ++ [.release (.dev i)]) ++
        .release (.cdev i) :: rollBack dev i

/-- The loop that creates the devices, from one of them on. -/
def createLoop (environment : Environment mydevCount) (dev : Nat → Int) (i : Nat) : Loading :=
  if inside : i < mydevCount then
    let turn := createDevice environment ⟨i, inside⟩ dev
    match turn.errLoop with
    | some ret =>
        ⟨ret, turn.log ++ rollBack turn.dev i ++
          [.release .mydevs, .release .mydevClass, .release .region]⟩
    | none =>
        let later := createLoop environment turn.dev (i + 1)
        ⟨later.ret, turn.log ++ later.log⟩
  else ⟨0, []⟩
termination_by mydevCount - i

/-- `mydev_init`: the region, the class and the array, and then the loop over the devices.
-/
def mydevInit (environment : Environment mydevCount) : Loading :=
  let ret := environment.number .allocChrdevRegion
  if ret ≠ 0 then ⟨ret, []⟩
  else
    let mydevClass := environment.pointer .classCreate
    if isErr mydevClass then
      ⟨wrapSigned 32 mydevClass, [.acquire .region, .release .region]⟩
    else
      let mydevs := environment.allocation
      if mydevs = 0 then
        ⟨-enomem, [.acquire .region, .acquire .mydevClass, .release .mydevClass,
          .release .region]⟩
      else
        let loop := createLoop environment (fun _ => 0) 0
        ⟨loop.ret, [.acquire .region, .acquire .mydevClass, .acquire .mydevs] ++ loop.log⟩

/-- One turn of the loop in `mydev_exit`. -/
def exitTurn (i : Nat) : List (Entry Resource) :=
  removeFiles i ++ [.release (.dev i), .release (.cdev i)]

/-- `mydev_exit` goes through the devices in their order, not in reverse, and ends with the
array, the class and the region. -/
def mydevExit (mydevCount : Nat) : List (Entry Resource) :=
  (List.range mydevCount).flatMap exitTurn ++
    [.release .mydevs, .release .mydevClass, .release .region]

/-- What one device needs, in the order in which a turn of the loop acquires it. -/
def deviceResources (i : Nat) : List Resource :=
  [.cdev i, .dev i, .deviceFile i .data, .deviceFile i .stats, .deviceFile i .reset]

/-- What is acquired before the loop, in order. -/
def moduleResources : List Resource := [.region, .mydevClass, .mydevs]

/-- What the first devices need, in order. -/
def devices (count : Nat) : List Resource := (List.range count).flatMap deviceResources

/-- Everything that loading acquires, in order. -/
def allResources (mydevCount : Nat) : List Resource := moduleResources ++ devices mydevCount

/-- The device in whose turn a call is made. -/
def InitCall.device : InitCall mydevCount → Option (Fin mydevCount)
  | .cdevAdd index | .deviceCreate index | .deviceCreateFile index _ => some index
  | _ => none

/-- How much loading has acquired when it makes a call: of the module's own
resources, or of those of the device in whose turn the call is made. -/
def InitCall.stage : InitCall mydevCount → Nat
  | .allocChrdevRegion | .cdevAdd _ => 0
  | .classCreate | .deviceCreate _ => 1
  | .kcalloc | .deviceCreateFile _ .data => 2
  | .deviceCreateFile _ .stats => 3
  | .deviceCreateFile _ .reset => 4

/-- What loading has acquired when it makes a call. -/
def InitCall.acquiredBefore (call : InitCall mydevCount) : List Resource :=
  match call.device with
  | none => moduleResources.take call.stage
  | some i => moduleResources ++ devices i ++ (deviceResources i).take call.stage

/-- The error that the failure of a call makes loading return. -/
def InitCall.reported (call : InitCall mydevCount) (error : Errno) : Int :=
  match call with
  | .kcalloc => -enomem
  | _ => error.ret

/-- One more device. -/
theorem devices_succ (count : Nat) :
    devices (count + 1) = devices count ++ deviceResources count := by
  rw [devices, List.range_succ, List.flatMap_append, List.flatMap_singleton, devices]

/-- A call that is not the failing one reports no error. -/
theorem succeeds (environment : Environment mydevCount) (call : InitCall mydevCount)
    (other : ∀ error, environment.failure ≠ some (call, error)) :
    environment.errorOf call = none := by
  cases failure : environment.failure with
  | none => simp only [Environment.errorOf, failure]
  | some pair =>
    obtain ⟨failing, error⟩ := pair
    have different : failing ≠ call := fun same => other error (same ▸ failure)
    simp only [Environment.errorOf, failure, if_neg different]

/-- The failing call reports its error. -/
theorem fails (environment : Environment mydevCount) (call : InitCall mydevCount) (error : Errno)
    (failing : environment.failure = some (call, error)) :
    environment.errorOf call = some error := by
  simp only [Environment.errorOf, failing, if_true]

/-- When one call fails, no other does. -/
theorem others_succeed (environment : Environment mydevCount) (call : InitCall mydevCount)
    (error : Errno) (failing : environment.failure = some (call, error))
    (other : InitCall mydevCount) (different : other ≠ call) :
    environment.errorOf other = none :=
  succeeds environment other fun _ same =>
    different (Prod.mk.inj (Option.some.inj (same.symm.trans failing))).1

/-- A call without an error returns zero, or a pointer to an object. -/
theorem no_error (environment : Environment mydevCount) (call : InitCall mydevCount)
    (none : environment.errorOf call = none) :
    environment.number call = 0 ∧ ¬ isErrOrNull (environment.pointer call) := by
  simp only [Environment.number, Environment.pointer, none]
  exact ⟨trivial, (environment.object call).valid⟩

/-- A call with an error returns its number, or a pointer that carries it. -/
theorem an_error (environment : Environment mydevCount) (call : InitCall mydevCount)
    (error : Errno) (failed : environment.errorOf call = some error) :
    environment.number call = error.ret ∧ environment.pointer call = error.ret := by
  simp only [Environment.number, Environment.pointer, failed, and_self]

/-- An error is a nonzero number, also as the value returned for an attribute. -/
theorem error_nonzero (error : Errno) :
    error.ret ≠ 0 ∧ attributeError error.ret = error.ret := by
  have nonzero : error.ret ≠ 0 := Int.ne_of_lt error.ret_neg
  exact ⟨nonzero, if_pos nonzero⟩

/-- A turn in which no call fails creates its device and goes on. -/
theorem create_device_completes (environment : Environment mydevCount) (i : Fin mydevCount)
    (dev : Nat → Int)
    (succeed : ∀ call, call.device = some i → environment.errorOf call = none) :
    ∃ word, ¬ isErrOrNull word ∧
      createDevice environment i dev =
        ⟨Function.update dev i word, none, acquiring (deviceResources i)⟩ := by
  have added := (no_error environment _ (succeed (.cdevAdd i) rfl)).1
  have created := (no_error environment _ (succeed (.deviceCreate i) rfl)).2
  have noError := (not_or.mp created).2
  have file (attr : Attribute) :=
    (no_error environment _ (succeed (.deviceCreateFile i attr) rfl)).1
  refine ⟨environment.pointer (.deviceCreate i), created, ?_⟩
  simp only [createDevice, added, file, Function.update_self, noError, ne_eq, not_true_eq_false,
    if_false]
  rfl

/-- A turn in which a call fails undoes its device and goes to `err_loop` with the
error of the call. It leaves the pointers of the earlier devices. -/
theorem create_device_fails (environment : Environment mydevCount) (i : Fin mydevCount)
    (dev : Nat → Int) (call : InitCall mydevCount) (error : Errno)
    (failure : environment.failure = some (call, error)) (here : call.device = some i) :
    ∃ left : Nat → Int, (∀ j < i.val, left j = dev j) ∧
      createDevice environment i dev = ⟨left, some error.ret,
        acquiring ((deviceResources i).take call.stage) ++
          unwinding ((deviceResources i).take call.stage)⟩ := by
  obtain ⟨number, pointer⟩ := an_error environment call error (fails environment call error failure)
  have others (other : InitCall mydevCount) (different : other ≠ call) :=
    no_error environment other (others_succeed environment call error failure other different)
  obtain ⟨nonzero, kept⟩ := error_nonzero error
  obtain ⟨isError, narrow⟩ := error_pointer error
  have earlier (word : Int) : ∀ j < i.val, Function.update dev i.val word j = dev j :=
    fun j below => Function.update_of_ne (Nat.ne_of_lt below) _ _
  cases call with
  | allocChrdevRegion | classCreate | kcalloc => exact absurd here (by simp [InitCall.device])
  | cdevAdd index =>
    obtain rfl := Option.some.inj here
    refine ⟨dev, fun _ _ => rfl, ?_⟩
    simp only [createDevice, number, nonzero, ne_eq, not_false_eq_true, if_true]
    rfl
  | deviceCreate index =>
    obtain rfl := Option.some.inj here
    have added := (others (.cdevAdd index) (by simp)).1
    refine ⟨_, earlier error.ret, ?_⟩
    simp only [createDevice, added, pointer, Function.update_self, isError, narrow, ne_eq,
      not_true_eq_false, if_true, if_false]
    rfl
  | deviceCreateFile index attr =>
    obtain rfl := Option.some.inj here
    have added := (others (.cdevAdd index) (by simp)).1
    have noError := (not_or.mp (others (.deviceCreate index) (by simp)).2).2
    refine ⟨_, earlier (environment.pointer (.deviceCreate index)), ?_⟩
    cases attr with
    | data =>
      simp only [createDevice, added, number, Function.update_self, noError, nonzero, kept, ne_eq,
        not_true_eq_false, not_false_eq_true, if_true, if_false]
      rfl
    | stats =>
      have data := (others (.deviceCreateFile index .data) (by simp)).1
      simp only [createDevice, added, data, number, Function.update_self, noError, nonzero, kept,
        ne_eq, not_true_eq_false, not_false_eq_true, if_true, if_false]
      rfl
    | reset =>
      have data := (others (.deviceCreateFile index .data) (by simp)).1
      have stats := (others (.deviceCreateFile index .stats) (by simp)).1
      simp only [createDevice, added, data, stats, number, Function.update_self, noError, nonzero,
        kept, ne_eq, not_true_eq_false, not_false_eq_true, if_true, if_false]
      rfl

/-- Rolling back unwinds the devices before its start. -/
theorem roll_back_unwinds (dev : Nat → Int) (i : Nat)
    (created : ∀ j < i, ¬ isErrOrNull (dev j)) : rollBack dev i = unwinding (devices i) := by
  induction i with
  | zero => rfl
  | succ i inductionHypothesis =>
    have earlier := inductionHypothesis fun j below => created j (Nat.lt_succ_of_lt below)
    rw [rollBack, if_neg (created i (Nat.lt_succ_self i)), earlier, devices_succ, unwinding_append]
    rfl

/-- When no call fails, the loop goes on to the last device.

Proof: by induction on the devices that remain. -/
theorem create_loop_completes (environment : Environment mydevCount)
    (succeed : ∀ call, environment.errorOf call = none) (dev : Nat → Int) (i : Nat)
    (bound : i ≤ mydevCount) :
    (createLoop environment dev i).ret = 0 ∧
      acquiring (devices i) ++ (createLoop environment dev i).log =
        acquiring (devices mydevCount) := by
  induction remaining : mydevCount - i generalizing dev i with
  | zero =>
    have last : i = mydevCount := by omega
    rw [createLoop, dif_neg (by omega), last]
    exact ⟨rfl, List.append_nil _⟩
  | succ remaining inductionHypothesis =>
    have inside : i < mydevCount := by omega
    obtain ⟨word, _, turn⟩ := create_device_completes environment ⟨i, inside⟩ dev
      (fun call _ => succeed call)
    obtain ⟨ret, log⟩ := inductionHypothesis (Function.update dev i word) (i + 1) inside (by omega)
    rw [createLoop, dif_pos inside, turn]
    refine ⟨ret, ?_⟩
    rw [← log, devices_succ, acquiring_append, List.append_assoc]

/-- When a call fails in the turn for a device, the loop has created the devices
before it and undoes its turn, them and what was acquired before the loop.

Proof: by induction on the devices before the failing one. Their pointers are
valid, so rolling back skips none of them. -/
theorem create_loop_fails (environment : Environment mydevCount) (failing : Fin mydevCount)
    (call : InitCall mydevCount) (error : Errno)
    (failure : environment.failure = some (call, error)) (here : call.device = some failing)
    (dev : Nat → Int) (i : Nat) (bound : i ≤ failing)
    (created : ∀ j < i, ¬ isErrOrNull (dev j)) :
    (createLoop environment dev i).ret = error.ret ∧
      acquiring (devices i) ++ (createLoop environment dev i).log =
        acquiring (devices failing ++ (deviceResources failing).take call.stage) ++
          unwinding call.acquiredBefore := by
  have inside : i < mydevCount := Nat.lt_of_le_of_lt bound failing.isLt
  induction remaining : failing.val - i generalizing dev i with
  | zero =>
    have current : failing = ⟨i, inside⟩ := Fin.ext (show failing.val = i by omega)
    obtain ⟨left, earlier, turn⟩ := create_device_fails environment failing dev call error failure
      here
    have rolled : rollBack left i = unwinding (devices i) :=
      roll_back_unwinds left i fun j below => by
        rw [earlier j (Nat.lt_of_lt_of_le below bound)]
        exact created j below
    rw [createLoop, dif_pos inside, ← current, turn]
    refine ⟨rfl, ?_⟩
    simp only [rolled, InitCall.acquiredBefore, here, unwinding_append, acquiring_append, current,
      List.append_assoc]
    rfl
  | succ remaining inductionHypothesis =>
    have other : ∀ later, later.device = some ⟨i, inside⟩ → environment.errorOf later = none := by
      intro later turn
      refine others_succeed environment call error failure later fun same => ?_
      rw [same, here, Option.some.injEq] at turn
      have index := congrArg Fin.val turn
      simp only at index
      omega
    obtain ⟨word, valid, turn⟩ := create_device_completes environment ⟨i, inside⟩ dev other
    have nextCreated : ∀ j < i + 1, ¬ isErrOrNull (Function.update dev i word j) := by
      intro j below
      by_cases last : j = i
      · rw [last, Function.update_self]
        exact valid
      · rw [Function.update_of_ne last]
        exact created j (by omega)
    obtain ⟨ret, log⟩ := inductionHypothesis (Function.update dev i word) (i + 1) (by omega)
      nextCreated (by omega) (by omega)
    rw [createLoop, dif_pos inside, turn]
    refine ⟨ret, ?_⟩
    rw [← log, devices_succ, acquiring_append, List.append_assoc]

/-- When no call before the loop fails, the loop decides how loading ends. -/
theorem mydev_init_loop (environment : Environment mydevCount)
    (early : ∀ call : InitCall mydevCount, call.device = none → environment.errorOf call = none) :
    mydevInit environment =
      ⟨(createLoop environment (fun _ => 0) 0).ret,
        acquiring moduleResources ++ (createLoop environment (fun _ => 0) 0).log⟩ := by
  have region := (no_error environment _ (early .allocChrdevRegion rfl)).1
  have classCreated := (no_error environment _ (early .classCreate rfl)).2
  have noError := (not_or.mp classCreated).2
  have allocated : environment.allocation ≠ 0 := by
    rw [Environment.allocation, early .kcalloc rfl]
    exact (not_or.mp (environment.object .kcalloc).valid).1
  simp only [mydevInit, region, noError, allocated, ne_eq, not_true_eq_false, if_false]
  rfl

/-- How loading and unloading should end. When a call fails, loading returns its
error and has released exactly what it had acquired before the call, each once and
in reverse order. Otherwise loading returns zero with everything acquired, and
unloading releases exactly that, each once. -/
def EndsProperly (environment : Environment mydevCount) : Prop :=
  match environment.failure with
  | some (call, error) =>
      (mydevInit environment).ret = call.reported error ∧
        call.acquiredBefore.Nodup ∧
        (mydevInit environment).log =
          acquiring call.acquiredBefore ++ unwinding call.acquiredBefore
  | none =>
      (mydevInit environment).ret = 0 ∧
        (allResources mydevCount).Nodup ∧
        (mydevInit environment).log = acquiring (allResources mydevCount) ∧
        acquired (mydevExit mydevCount) = [] ∧
        (released (mydevExit mydevCount)).Perm (allResources mydevCount)

/-- Whatever call fails, loading has undone what it had done. -/
theorem mydev_init_fails (environment : Environment mydevCount) (call : InitCall mydevCount)
    (error : Errno) (failure : environment.failure = some (call, error)) :
    (mydevInit environment).ret = call.reported error ∧
      (mydevInit environment).log =
        acquiring call.acquiredBefore ++ unwinding call.acquiredBefore := by
  have failed := fails environment call error failure
  obtain ⟨number, pointer⟩ := an_error environment call error failed
  have others (other : InitCall mydevCount) (different : other ≠ call) :=
    others_succeed environment call error failure other different
  have nonzero := (error_nonzero error).1
  obtain ⟨isError, narrow⟩ := error_pointer error
  cases turn : call.device with
  | none =>
    cases call with
    | allocChrdevRegion =>
      simp only [mydevInit, number, nonzero, ne_eq, not_false_eq_true, if_true]
      exact ⟨rfl, rfl⟩
    | classCreate =>
      have region := (no_error environment _ (others .allocChrdevRegion (by simp))).1
      simp only [mydevInit, region, pointer, isError, narrow, ne_eq, not_true_eq_false, if_true,
        if_false]
      exact ⟨rfl, rfl⟩
    | kcalloc =>
      have region := (no_error environment _ (others .allocChrdevRegion (by simp))).1
      have classCreated := (no_error environment _ (others .classCreate (by simp))).2
      have noError := (not_or.mp classCreated).2
      have refused : environment.allocation = 0 := by rw [Environment.allocation, failed]
      simp only [mydevInit, region, noError, refused, ne_eq, not_true_eq_false, if_true, if_false]
      exact ⟨rfl, rfl⟩
    | cdevAdd | deviceCreate | deviceCreateFile => exact absurd turn (by simp [InitCall.device])
  | some failing =>
    have early : ∀ other : InitCall mydevCount, other.device = none →
        environment.errorOf other = none := by
      intro other before
      refine others other fun same => ?_
      rw [same, turn] at before
      exact absurd before (by simp)
    obtain ⟨ret, log⟩ := create_loop_fails environment failing call error failure turn (fun _ => 0)
      0 (Nat.zero_le _) (fun _ impossible => absurd impossible (Nat.not_lt_zero _))
    have loop : (createLoop environment (fun _ => 0) 0).log =
        acquiring (devices failing ++ (deviceResources failing).take call.stage) ++
          unwinding call.acquiredBefore := log
    have reported : call.reported error = error.ret := by
      cases call with
      | kcalloc => exact absurd turn (by simp [InitCall.device])
      | allocChrdevRegion | classCreate | cdevAdd | deviceCreate | deviceCreateFile => rfl
    have before : call.acquiredBefore =
        moduleResources ++ (devices failing ++ (deviceResources failing).take call.stage) := by
      rw [InitCall.acquiredBefore, turn]
      exact List.append_assoc _ _ _
    rw [mydev_init_loop environment early, ret, loop, reported, ← List.append_assoc,
      ← acquiring_append, ← before]
    exact ⟨rfl, rfl⟩

/-- Only a device's own turn acquires for it. -/
theorem device_resources_owned (i other : Nat) (resource : Resource)
    (first : resource ∈ deviceResources i) (second : resource ∈ deviceResources other) :
    i = other := by
  simp only [deviceResources, List.mem_cons, List.not_mem_nil, or_false] at first second
  rcases first with rfl | rfl | rfl | rfl | rfl <;> simpa using second

/-- Loading acquires no resource twice. -/
theorem all_resources_nodup (mydevCount : Nat) : (allResources mydevCount).Nodup := by
  have perDevice : (devices mydevCount).Nodup := by
    rw [devices, List.nodup_flatMap]
    refine ⟨fun i _ => by simp [deviceResources], ?_⟩
    refine List.Pairwise.imp ?_ List.nodup_range
    intro i other different resource first second
    exact different (device_resources_owned i other resource first second)
  have separate : ∀ resource ∈ moduleResources, resource ∉ devices mydevCount := by
    intro resource own member
    obtain ⟨i, _, inTurn⟩ := List.mem_flatMap.mp member
    simp only [moduleResources, deviceResources, List.mem_cons, List.not_mem_nil, or_false]
      at own inTurn
    rcases own with rfl | rfl | rfl <;> simp at inTurn
  exact List.nodup_append'.mpr ⟨by decide, perDevice, separate⟩

/-- What is acquired before a call is a part of what loading acquires. -/
theorem acquired_before_sublist (call : InitCall mydevCount) :
    call.acquiredBefore.Sublist (allResources mydevCount) := by
  cases turn : call.device with
  | none =>
    rw [InitCall.acquiredBefore, turn]
    exact (List.take_sublist _ _).trans (List.sublist_append_left _ _)
  | some failing =>
    have upTo : (devices (failing.val + 1)).Sublist (devices mydevCount) := by
      have shorter : (List.range (failing.val + 1)).Sublist (List.range mydevCount) :=
        List.range_sublist.mpr failing.isLt
      exact shorter.flatMap deviceResources
    rw [devices_succ] at upTo
    simp only [InitCall.acquiredBefore, turn, List.append_assoc]
    refine List.Sublist.append_left ?_ _
    exact ((List.take_sublist _ _).append_left _).trans upTo

/-- Unloading acquires nothing and releases what loading acquires, each once. -/
theorem mydev_exit_releases (mydevCount : Nat) :
    acquired (mydevExit mydevCount) = [] ∧
      (released (mydevExit mydevCount)).Perm (allResources mydevCount) := by
  have order : mydevExit mydevCount =
      ((List.range mydevCount).flatMap (fun i => (deviceResources i).reverse) ++
        moduleResources.reverse).map .release := by
    rw [List.map_append, List.map_flatMap]
    rfl
  obtain ⟨none, all⟩ := releases_only ((List.range mydevCount).flatMap
    (fun i => (deviceResources i).reverse) ++ moduleResources.reverse)
  rw [order, none, all]
  refine ⟨rfl, List.perm_append_comm.trans ?_⟩
  apply (List.reverse_perm _).append
  exact List.Perm.flatMap_left _ fun i _ => List.reverse_perm _

/-- For every number of devices and every choice of the failing call, or of none,
loading unwinds completely or unloading releases everything. -/
theorem mydev_unwinds (mydevCount : Nat) (environment : Environment mydevCount) :
    EndsProperly environment := by
  cases failure : environment.failure with
  | some pair =>
    obtain ⟨call, error⟩ := pair
    obtain ⟨ret, log⟩ := mydev_init_fails environment call error failure
    have nodup := (acquired_before_sublist call).nodup (all_resources_nodup mydevCount)
    simp only [EndsProperly, failure]
    exact ⟨ret, nodup, log⟩
  | none =>
    have succeed (call : InitCall mydevCount) : environment.errorOf call = none := by
      rw [Environment.errorOf, failure]
    obtain ⟨ret, log⟩ := create_loop_completes environment succeed (fun _ => 0) 0 (Nat.zero_le _)
    have loop : (createLoop environment (fun _ => 0) 0).log = acquiring (devices mydevCount) := log
    obtain ⟨none, all⟩ := mydev_exit_releases mydevCount
    simp only [EndsProperly, failure, none]
    rw [mydev_init_loop environment fun call _ => succeed call, loop, ← acquiring_append]
    exact ⟨ret, all_resources_nodup mydevCount, rfl, trivial, all⟩

/-- Two devices, of which the second gets no `stats` file. Every pointer is the same object. -/
def statsFails : Environment 2 where
  failure := some (.deviceCreateFile (Fin.last 1) .stats, ⟨28, by decide, by decide⟩)
  object _ := ⟨4096, by decide⟩

/-- Loading returns the error, and undoes the second device, the first one and the module. -/
theorem stats_fails_unwinds :
    (mydevInit statsFails).ret = -enospc ∧
      released (mydevInit statsFails).log =
        [.deviceFile 1 .data, .dev 1, .cdev 1, .deviceFile 0 .reset, .deviceFile 0 .stats,
          .deviceFile 0 .data, .dev 0, .cdev 0, .mydevs, .mydevClass, .region] := by
  obtain ⟨ret, -, log⟩ := mydev_unwinds 2 statsFails
  exact ⟨ret, by rw [log]; decide⟩

end LddExamples.MultiMinorInit
