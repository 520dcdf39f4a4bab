import Mathlib.Data.List.Basic

/-!
# Logs of acquired and released resources

A log lists acquisitions and releases in order. Replaying it over the resources
already held, latest first, checks that every release is of the resource acquired
last and still held; so a log that replays to nothing releases exactly what it
acquires, each once and in reverse order. Where the order is free, the lists of what
a log acquires and releases are compared. Nothing here depends on the resources.
-/

namespace LddExamples.ResourceLog

variable {ρ : Type}

/-- One entry of a log. -/
inductive Entry (ρ : Type) where
  | acquire (resource : ρ)
  | release (resource : ρ)
deriving DecidableEq

/-- The resources held after a log, latest first; none if some release is of
anything but the latest. -/
def replay [DecidableEq ρ] : List ρ → List (Entry ρ) → Option (List ρ)
  | held, [] => some held
  | held, .acquire resource :: log => replay (resource :: held) log
  | [], .release _ :: _ => none
  | latest :: held, .release resource :: log =>
      if resource = latest then replay held log else none

/-- The log of acquiring the listed resources in order. -/
def acquiring (resources : List ρ) : List (Entry ρ) := resources.map .acquire

/-- The log of releasing the listed resources in the reverse order. -/
def unwinding (resources : List ρ) : List (Entry ρ) := resources.reverse.map .release

/-- The resources that a log acquires, in order. -/
def acquired : List (Entry ρ) → List ρ
  | [] => []
  | .acquire resource :: log => resource :: acquired log
  | .release _ :: log => acquired log

/-- The resources that a log releases, in order. -/
def released : List (Entry ρ) → List ρ
  | [] => []
  | .acquire _ :: log => released log
  | .release resource :: log => resource :: released log

/-- A longer log acquires and releases what its parts do. -/
theorem acquired_append (first second : List (Entry ρ)) :
    acquired (first ++ second) = acquired first ++ acquired second ∧
      released (first ++ second) = released first ++ released second := by
  induction first with
  | nil => exact ⟨rfl, rfl⟩
  | cons entry log inductionHypothesis =>
    obtain ⟨acquires, releases⟩ := inductionHypothesis
    cases entry with
    | acquire resource => exact ⟨congrArg (resource :: ·) acquires, releases⟩
    | release resource => exact ⟨acquires, congrArg (resource :: ·) releases⟩

/-- A log of releases alone acquires nothing and releases what it lists. -/
theorem releases_only (resources : List ρ) :
    acquired (resources.map .release) = [] ∧ released (resources.map .release) = resources := by
  induction resources with
  | nil => exact ⟨rfl, rfl⟩
  | cons resource later inductionHypothesis =>
    rw [List.map_cons, acquired, released, inductionHypothesis.1, inductionHypothesis.2]
    exact ⟨rfl, rfl⟩

/-- One more resource is released before the others. -/
theorem unwinding_append_singleton (resources : List ρ) (resource : ρ) :
    unwinding (resources ++ [resource]) = .release resource :: unwinding resources := by
  rw [unwinding, List.reverse_append, List.reverse_singleton, List.singleton_append,
    List.map_cons, unwinding]

/-- Resources are acquired in the order of their list. -/
theorem acquiring_append (earlier later : List ρ) :
    acquiring (earlier ++ later) = acquiring earlier ++ acquiring later :=
  List.map_append

/-- The resources of a longer list that come later are released first. -/
theorem unwinding_append (earlier later : List ρ) :
    unwinding (earlier ++ later) = unwinding later ++ unwinding earlier := by
  simp only [unwinding, List.reverse_append, List.map_append]

section Replay

variable [DecidableEq ρ]

/-- Replay goes through a log in pieces. -/
theorem replay_append (held : List ρ) (first second : List (Entry ρ)) :
    replay held (first ++ second) = (replay held first).bind (fun next => replay next second) := by
  induction first generalizing held with
  | nil => rfl
  | cons entry log inductionHypothesis =>
    cases entry with
    | acquire resource => exact inductionHypothesis (resource :: held)
    | release resource =>
      cases held with
      | nil => rfl
      | cons latest held =>
        simp only [List.cons_append, replay]
        split
        · exact inductionHypothesis held
        · rfl

/-- Acquired resources are held, the last of them on top. -/
theorem replay_acquiring (held resources : List ρ) :
    replay held (acquiring resources) = some (resources.reverse ++ held) := by
  induction resources generalizing held with
  | nil => rfl
  | cons resource later inductionHypothesis =>
    rw [acquiring, List.map_cons, replay]
    apply (inductionHypothesis (resource :: held)).trans
    rw [List.reverse_cons, List.append_assoc, List.singleton_append]

/-- Unwinding releases what is held on top. -/
theorem replay_unwinding (held resources : List ρ) :
    replay (resources.reverse ++ held) (unwinding resources) = some held := by
  rw [unwinding]
  induction resources.reverse with
  | nil => rfl
  | cons resource earlier inductionHypothesis =>
    rw [List.map_cons, List.cons_append, replay, if_pos rfl]
    exact inductionHypothesis

/-- Acquiring resources and unwinding them leaves nothing held. -/
theorem replay_unwound (resources : List ρ) :
    replay [] (acquiring resources ++ unwinding resources) = some [] := by
  have unwound := replay_unwinding [] resources
  rw [replay_append, replay_acquiring]
  exact unwound

end Replay

end LddExamples.ResourceLog
