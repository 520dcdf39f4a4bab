import LddExamples.StorageRuns

/-!
# What an acknowledged mirror and an acknowledged backup are worth

A backup that returns 0 has dumped the whole mirror, however many short writes it
took. The mirror holds, sector by sector, what the last acknowledged mirror
request copied, as long as no signal ends the mirror module's wait for its mutex:
such a wait returns without a copy, and the request is acknowledged all the same.
-/

namespace LddExamples.MirrorBackups

open Runs ByteWindows KernelInterface StorageMirror StorageDevice StorageRuns

/-- What an acknowledged mirror request for a sector ought to put in the mirror:
the sector's contents when the request completes. -/
def mirrored (event : Event System Call) (sector : Nat) : Option (List UInt8) :=
  match event.call with
  | .ioctl (.mirrorSector arg _) =>
      if (event.reply step).ret = 0 ∧ copyIntFromUser arg = some (sector : Int) then
        some (sectorBytes (event.left step).storage.storageBuffer sector)
      else none
  | _ => none

/-- A signal ends the mirror's wait in a request whose argument can be copied and
names a sector. -/
def SignalLosesMirror (event : Event System Call) : Prop :=
  ∃ arg, ∃ sector : Nat, event.call = .ioctl (.mirrorSector arg true) ∧
    copyIntFromUser arg = some (sector : Int) ∧ sector < 8

/-- A mirror request that no signal disturbs leaves in each sector of the mirror
what it ought to put there, and the other sectors as they were. -/
theorem mirror_request_puts (system : System) (arg : UserSource) (interrupted : Bool)
    (undisturbed : ¬ SignalLosesMirror ⟨system, .ioctl (.mirrorSector arg interrupted)⟩)
    (sector : Nat) (inside : sector < 8) :
    sectorBytes (step system (.ioctl (.mirrorSector arg interrupted))).1.storage.mirrorBuffer
        sector =
      (mirrored ⟨system, .ioctl (.mirrorSector arg interrupted)⟩ sector).getD
        (sectorBytes system.storage.mirrorBuffer sector) := by
  have mirroredIs : mirrored ⟨system, .ioctl (.mirrorSector arg interrupted)⟩ sector =
      if (mirrorSectorCommand system.storage arg interrupted).2.ret = 0 ∧
        copyIntFromUser arg = some (sector : Int) then
        some (sectorBytes (mirrorSectorCommand system.storage arg interrupted).1.storageBuffer
          sector)
      else none := rfl
  change sectorBytes (mirrorSectorCommand system.storage arg interrupted).1.mirrorBuffer sector = _
  rw [mirroredIs]
  rcases mirror_command_cases system.storage arg interrupted with
    ⟨same, failed⟩ | ⟨other, copied, below, mirrors⟩
  · rw [same, if_neg (fun done => absurd done.1 (Int.ne_of_lt failed)), Option.getD_none]
  · have quiet : interrupted = false := by
      cases interrupted with
      | false => rfl
      | true => exact absurd ⟨arg, other, rfl, copied, below⟩ undisturbed
    subst quiet
    rw [mirrors, copied]
    have length : (sectorBytes system.storage.storageBuffer other).length = mirrorSectorSize :=
      load_length _ _ _
    by_cases same : other = sector
    · subst same
      rw [if_pos ⟨rfl, rfl⟩, Option.getD_some]
      exact mirror_sector_same _ other inside _ length
    · rw [if_neg (fun done => same (Int.ofNat.inj (Option.some.inj done.2))), Option.getD_none]
      apply (load_eq_iff _ _ _ _ _).mpr
      intro index within
      apply mirror_sector_other _ _ _ length
      simp only [mirrorSectorSize] at within ⊢
      omega

/-- Every undisturbed call leaves in each sector of the mirror what it ought to. -/
theorem step_mirrors (event : Event System Call) (undisturbed : ¬ SignalLosesMirror event)
    (sector : Nat) (inside : sector < 8) :
    sectorBytes (event.left step).storage.mirrorBuffer sector =
      (mirrored event sector).getD (sectorBytes event.before.storage.mirrorBuffer sector) := by
  obtain ⟨system, call⟩ := event
  by_cases mirror : ∃ arg interrupted, call = .ioctl (.mirrorSector arg interrupted)
  · obtain ⟨arg, interrupted, rfl⟩ := mirror
    exact mirror_request_puts system arg interrupted undisturbed sector inside
  · have nothing : mirrored ⟨system, call⟩ sector = none := by
      unfold mirrored
      split
      · rename_i arg interrupted same
        exact absurd ⟨arg, interrupted, same⟩ mirror
      · rfl
    have same : (step system call).1.storage.mirrorBuffer = system.storage.mirrorBuffer := by
      have effect := step_effect system call
      generalize (step system call).1.storage = next at effect ⊢
      cases effect with
      | mirrored arg interrupted => exact absurd ⟨arg, interrupted, rfl⟩ mirror
      | unchanged | written | locked | unlocked | erased => rfl
    change sectorBytes (step system call).1.storage.mirrorBuffer sector = _
    rw [nothing, same, Option.getD_none]

/-- In an undisturbed run, each sector of the mirror is what the last acknowledged
request for it copied, and zero where there was none. -/
theorem mirror_holds_last (userKeys : List (Option (List UInt8))) (memory mirror : Memory)
    (locks : Int → Bool) (positions : Positions) (calls : List Call)
    (undisturbed : ∀ event ∈ trace step (loaded userKeys memory mirror locks positions) calls,
      ¬ SignalLosesMirror event) (sector : Nat) (inside : sector < 8) :
    sectorBytes (after step (loaded userKeys memory mirror locks positions)
        calls).storage.mirrorBuffer sector =
      (lastPut mirrored (trace step (loaded userKeys memory mirror locks positions) calls)
        sector).getD (List.replicate 512 0) := by
  have cleared : sectorBytes (loaded userKeys memory mirror locks positions).storage.mirrorBuffer
      sector = List.replicate 512 0 := by
    apply List.ext_getElem (by rw [sectorBytes, load_length, List.length_replicate]; rfl)
    intro index below _
    rw [List.getElem_replicate]
    simp only [sectorBytes] at below ⊢
    rw [load_getElem]
    rw [load_length] at below
    simp only [mirrorSectorSize] at below
    apply fill_inside mirror 0 mirrorTotalSize 0 _ (Nat.zero_le _)
    simp only [mirrorSectorSize, mirrorTotalSize]
    omega
  have last := view_after step (fun _ => True) (fun event => ¬ SignalLosesMirror event) (· < 8)
    (fun system sector => sectorBytes system.storage.mirrorBuffer sector) mirrored
    (fun _ _ _ => trivial) (fun event sector _ quiet below => step_mirrors event quiet sector below)
    (loaded userKeys memory mirror locks positions) calls trivial undisturbed sector inside
  exact last.trans (congrArg _ cleared)

/-- A backup request that returns 0 has written the whole mirror. -/
theorem backup_request_success (system : System) (arg : UserSource) (openError : Option Errno)
    (interrupted : Bool) (kernelWrite : KernelWrite)
    (success : (step system (.ioctl
      (.backupToFile arg openError interrupted kernelWrite))).2.ret = 0) :
    (step system (.ioctl (.backupToFile arg openError interrupted kernelWrite))).2.data =
      load system.storage.mirrorBuffer 0 mirrorTotalSize := by
  change (backupToFile system.storage arg openError interrupted kernelWrite).ret = 0 at success
  change (backupToFile system.storage arg openError interrupted kernelWrite).data = _
  simp only [backupToFile] at success ⊢
  split at success
  · simp at success
  · rename_i complete
    simp only [if_neg complete, backup_success _ _ _ _ _ success, Option.getD_some]

/-- A sector of a whole dump is the sector of the mirror. -/
theorem dumped_sector (mirrorBuffer : Memory) (sector : Nat) (inside : sector < 8) :
    ((load mirrorBuffer 0 mirrorTotalSize).drop (512 * sector)).take 512 =
      sectorBytes mirrorBuffer sector := by
  have enough : min 512 (mirrorTotalSize - 512 * sector) = mirrorSectorSize := by
    simp only [mirrorTotalSize, mirrorSectorSize]
    omega
  have offset : 0 + 512 * sector = sector * mirrorSectorSize := by
    simp only [mirrorSectorSize]
    omega
  rw [drop_load, take_load, enough, offset]
  rfl

/-- A run keeps its word when every acknowledged backup holds, in each sector,
what the last acknowledged mirror request for it copied, and every acknowledged
mirror request has updated the mirror. -/
def KeepsWord (start : System) (calls : List Call) : Prop :=
  (∀ earlier arg openError interrupted kernelWrite later,
    calls = earlier ++ .ioctl (.backupToFile arg openError interrupted kernelWrite) :: later →
    (step (after step start earlier)
      (.ioctl (.backupToFile arg openError interrupted kernelWrite))).2.ret = 0 →
    ∀ sector < 8,
      ((step (after step start earlier) (.ioctl
        (.backupToFile arg openError interrupted kernelWrite))).2.data.drop (512 * sector)).take
          512 =
        (lastPut mirrored (trace step start earlier) sector).getD (List.replicate 512 0)) ∧
  ∀ event ∈ trace step start calls, ∀ arg interrupted,
    event.call = .ioctl (.mirrorSector arg interrupted) → (event.reply step).ret = 0 →
    ∃ sector : Nat, copyIntFromUser arg = some (sector : Int) ∧ sector < 8 ∧
      sectorBytes (event.left step).storage.mirrorBuffer sector =
        sectorBytes (event.left step).storage.storageBuffer sector

/-- Every run in which no signal ends a mirror's wait keeps its word.

Proof: an acknowledged backup is a dump of the mirror, whose sectors are the last
acknowledged copies. An acknowledged mirror request that no signal disturbs puts
the sector that it names. -/
theorem undisturbed_run_keeps_word (userKeys : List (Option (List UInt8))) (memory mirror : Memory)
    (locks : Int → Bool) (positions : Positions) (calls : List Call)
    (undisturbed : ∀ event ∈ trace step (loaded userKeys memory mirror locks positions) calls,
      ¬ SignalLosesMirror event) :
    KeepsWord (loaded userKeys memory mirror locks positions) calls := by
  constructor
  · rintro earlier arg openError interrupted kernelWrite later rfl success sector inside
    rw [backup_request_success _ _ _ _ _ success, dumped_sector _ sector inside]
    apply mirror_holds_last _ _ _ _ _ earlier _ sector inside
    intro event member
    apply undisturbed event
    rw [trace_append]
    exact List.mem_append_left _ member
  · rintro ⟨system, call⟩ member arg interrupted rfl success
    change (mirrorSectorCommand system.storage arg interrupted).2.ret = 0 at success
    rcases mirror_command_cases system.storage arg interrupted with
      ⟨_, failed⟩ | ⟨sector, copied, inside, _⟩
    · omega
    · refine ⟨sector, copied, inside, ?_⟩
      have puts := mirror_request_puts system arg interrupted (undisturbed _ member) sector inside
      have copies : mirrored ⟨system, .ioctl (.mirrorSector arg interrupted)⟩ sector =
          some (sectorBytes (step system
            (.ioctl (.mirrorSector arg interrupted))).1.storage.storageBuffer sector) :=
        if_pos ⟨success, copied⟩
      rw [copies, Option.getD_some] at puts
      exact puts

/-- One byte of sector 0 is written and the sector mirrored, with or without a
signal while the mirror waits for its mutex. -/
def writtenAndMirrored (signal : Bool) : List Call :=
  [.write 0 (.fixed 0) 1 (.ofBytes [0x41]) false,
    .ioctl (.mirrorSector (.ofBytes [0, 0, 0, 0]) signal)]

/-- A backup to a file that takes every write whole. -/
def wholeBackup : Ioctl :=
  .backupToFile (.ofBytes (0x62 :: List.replicate 255 0)) none false .whole

/-- It succeeds in every state. -/
theorem whole_backup_succeeds (system : System) : (step system (.ioctl wholeBackup)).2.ret = 0 := by
  have copied : (UserSource.ofBytes (0x62 :: List.replicate 255 0)).uncopied 256 = 0 :=
    Nat.sub_eq_zero_of_le (by rw [UserSource.ofBytes, List.length_cons, List.length_replicate])
  have named : ((UserSource.ofBytes (0x62 :: List.replicate 255 0)).landed 256).headD 0 ≠ 0 := by
    rw [UserSource.landed_ofBytes, List.take_succ_cons, List.headD_cons]
    decide
  simp only [step, storageIoctl, wholeBackup, backupToFile, copied, ne_eq, not_true_eq_false,
    if_false, backup_whole _ _ named]

/-- Without the signal, the run that ends with the backup keeps its word. -/
theorem quiet_mirror_keeps_word :
    KeepsWord fresh (writtenAndMirrored false ++ [.ioctl wholeBackup]) := by
  refine undisturbed_run_keeps_word [] (fun _ => 0) (fun _ => 0) (fun _ => false) (fun _ => 0) _ ?_
  rintro event member ⟨arg, sector, isMirror, _⟩
  simp only [writtenAndMirrored, List.cons_append, List.nil_append, trace_cons, trace_nil,
    List.mem_cons, List.not_mem_nil, or_false] at member
  rcases member with rfl | rfl | rfl
  · cases isMirror
  · cases isMirror
  · simp only [wholeBackup] at isMirror
    cases isMirror

/-- With the signal, the mirror request is acknowledged, the backup succeeds, and
the file's sector 0 is not what was mirrored: its first byte is still zero. -/
theorem signal_breaks_word :
    ¬ KeepsWord fresh (writtenAndMirrored true ++ [.ioctl wholeBackup]) := by
  intro keeps
  have success := whole_backup_succeeds (after step fresh (writtenAndMirrored true))
  have same := keeps.1 (writtenAndMirrored true) _ none false .whole [] rfl success 0 (by decide)
  rw [backup_request_success _ _ _ _ _ success, dumped_sector _ 0 (by decide)] at same
  have copied : lastPut mirrored (trace step fresh (writtenAndMirrored true)) 0 =
      some (sectorBytes (after step fresh (writtenAndMirrored true)).storage.storageBuffer 0) := rfl
  rw [copied, Option.getD_some] at same
  have byte := (load_eq_iff _ _ _ _ _).mp same 0 (by decide)
  exact absurd byte (by decide)

end LddExamples.MirrorBackups
