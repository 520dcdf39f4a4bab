import Mathlib.Data.List.Induction

/-!
# Finite runs of a system of complete calls

A system is a total step function: a state and a call determine the next state
and the reply. Whatever a call's environment decides (a signal, a fault, a short
transfer) is part of the call, so a run is its initial state and a list of calls,
and a law about every list of calls is a law about every run and every
environment. A call that is not enabled leaves the state unchanged.

A few induction rules carry every run law: an invariant that each permitted call
keeps, alone or together with the history of the run, the last-write rule, by which
a keyed view of the state is the last value that some call put there, and the
simulation rule, by which related states of two systems, or of one, answer alike the
calls that keep the relation. Nothing here depends on what the calls do.
-/

namespace LddExamples.Runs

universe u v w x
variable {σ : Type u} {α : Type v} {ρ : Type w}

/-- One executed call together with the state it met. -/
structure Event (σ : Type u) (α : Type v) where
  before : σ
  call : α

/-- The state an executed call left. -/
def Event.left (step : σ → α → σ × ρ) (event : Event σ α) : σ := (step event.before event.call).1

/-- The reply an executed call received. -/
def Event.reply (step : σ → α → σ × ρ) (event : Event σ α) : ρ := (step event.before event.call).2

/-- The state left by executing the calls in order. -/
def after (step : σ → α → σ × ρ) : σ → List α → σ
  | state, [] => state
  | state, call :: rest => after step (step state call).1 rest

/-- The executed calls in order, each with the state it met. -/
def trace (step : σ → α → σ × ρ) : σ → List α → List (Event σ α)
  | _, [] => []
  | state, call :: rest => ⟨state, call⟩ :: trace step (step state call).1 rest

variable (step : σ → α → σ × ρ)

/-- No call leaves the state. -/
@[simp] theorem after_nil (state : σ) : after step state [] = state := rfl

/-- The first call comes first. -/
@[simp] theorem after_cons (state : σ) (call : α) (rest : List α) :
    after step state (call :: rest) = after step (step state call).1 rest := rfl

/-- No call leaves no trace. -/
@[simp] theorem trace_nil (state : σ) : trace step state [] = [] := rfl

/-- The first call is executed in the first state. -/
@[simp] theorem trace_cons (state : σ) (call : α) (rest : List α) :
    trace step state (call :: rest) = ⟨state, call⟩ :: trace step (step state call).1 rest := rfl

/-- Running two lists of calls is running the second from where the first ends. -/
theorem after_append (state : σ) (first second : List α) :
    after step state (first ++ second) = after step (after step state first) second := by
  induction first generalizing state with
  | nil => rfl
  | cons call rest inductionHypothesis => exact inductionHypothesis (step state call).1

/-- A trace splits where its calls do. -/
theorem trace_append (state : σ) (first second : List α) :
    trace step state (first ++ second) =
      trace step state first ++ trace step (after step state first) second := by
  induction first generalizing state with
  | nil => rfl
  | cons call rest inductionHypothesis =>
    exact congrArg (⟨state, call⟩ :: ·) (inductionHypothesis (step state call).1)

/-- The invariant rule along a run whose calls are all permitted: what holds at
the start and is kept by every permitted call holds at the end and in the state
that each call of the run met. -/
theorem invariant_along (Inv : σ → Prop) (Permitted : Event σ α → Prop)
    (kept : ∀ event, Inv event.before → Permitted event → Inv (event.left step))
    (state : σ) (calls : List α) (holds : Inv state)
    (permitted : ∀ event ∈ trace step state calls, Permitted event) :
    Inv (after step state calls) ∧ ∀ event ∈ trace step state calls, Inv event.before := by
  induction calls generalizing state with
  | nil => exact ⟨holds, fun event member => absurd member List.not_mem_nil⟩
  | cons call rest inductionHypothesis =>
    have first : Permitted ⟨state, call⟩ := permitted ⟨state, call⟩ List.mem_cons_self
    have next : Inv (step state call).1 := kept ⟨state, call⟩ holds first
    obtain ⟨final, met⟩ := inductionHypothesis (step state call).1 next
      (fun event member => permitted event (List.mem_cons_of_mem _ member))
    refine ⟨final, ?_⟩
    intro event member
    rcases List.mem_cons.mp member with rfl | inRest
    · exact holds
    · exact met event inRest

/-- The invariant rule for runs of arbitrary calls. -/
theorem invariant_after (Inv : σ → Prop) (kept : ∀ state call, Inv state → Inv (step state call).1)
    (state : σ) (calls : List α) (holds : Inv state) : Inv (after step state calls) :=
  (invariant_along step Inv (fun _ => True)
    (fun event met _ => kept event.before event.call met) state calls holds
    (fun _ _ => trivial)).1

/-- Every state an event of the run met satisfies an invariant of all calls. -/
theorem invariant_met (Inv : σ → Prop) (kept : ∀ state call, Inv state → Inv (step state call).1)
    (state : σ) (calls : List α) (holds : Inv state) (event : Event σ α)
    (member : event ∈ trace step state calls) : Inv event.before :=
  (invariant_along step Inv (fun _ => True)
    (fun event met _ => kept event.before event.call met) state calls holds
    (fun _ _ => trivial)).2 event member

section Histories

/-- The property holds of the history and the state at every point of the run. -/
def AtEachState (state : σ) (calls : List α) (Good : List (Event σ α) → σ → Prop) : Prop :=
  ∀ earlier, earlier <+: calls → Good (trace step state earlier) (after step state earlier)

/-- Every call of the run meets the condition, given the history before it. -/
def AtEachCall (state : σ) (calls : List α)
    (Condition : List (Event σ α) → Event σ α → Prop) : Prop :=
  ∀ earlier call, earlier ++ [call] <+: calls →
    Condition (trace step state earlier) ⟨after step state earlier, call⟩

/-- A run ends with one more call. -/
theorem trace_append_singleton (state : σ) (earlier : List α) (call : α) :
    trace step state (earlier ++ [call]) =
      trace step state earlier ++ [⟨after step state earlier, call⟩] :=
  trace_append step state earlier [call]

/-- The last call leaves the last state. -/
theorem after_append_singleton (state : σ) (earlier : List α) (call : α) :
    after step state (earlier ++ [call]) = (step (after step state earlier) call).1 :=
  after_append step state earlier [call]

/-- One more call adds one more state. -/
theorem at_each_state_append_singleton (state : σ) (earlier : List α) (call : α)
    (Good : List (Event σ α) → σ → Prop) :
    AtEachState step state (earlier ++ [call]) Good ↔
      AtEachState step state earlier Good ∧
        Good (trace step state (earlier ++ [call])) (after step state (earlier ++ [call])) := by
  constructor
  · intro throughout
    refine ⟨fun shorter isPrefix => ?_, throughout _ List.prefix_rfl⟩
    exact throughout shorter (isPrefix.trans (List.prefix_append _ _))
  · rintro ⟨throughout, last⟩ shorter isPrefix
    rcases List.prefix_concat_iff.mp isPrefix with rfl | within
    · exact last
    · exact throughout shorter within

/-- One more call is one more condition. -/
theorem at_each_call_append_singleton (state : σ) (earlier : List α) (call : α)
    (Condition : List (Event σ α) → Event σ α → Prop) :
    AtEachCall step state (earlier ++ [call]) Condition ↔
      AtEachCall step state earlier Condition ∧
        Condition (trace step state earlier) ⟨after step state earlier, call⟩ := by
  constructor
  · intro conditions
    refine ⟨fun shorter other isPrefix => ?_, conditions _ _ List.prefix_rfl⟩
    exact conditions shorter other (isPrefix.trans (List.prefix_append _ _))
  · rintro ⟨conditions, last⟩ shorter other isPrefix
    rcases List.prefix_concat_iff.mp isPrefix with same | within
    · obtain ⟨rfl, sameCall⟩ := List.append_inj' same rfl
      rw [List.singleton_inj.mp sameCall]
      exact last
    · exact conditions shorter other within

/-- The invariant rule with the history in view: what holds at the start and is
kept by every call that meets the condition holds at every point of the run. -/
theorem history_along (Inv : List (Event σ α) → σ → Prop)
    (Condition : List (Event σ α) → Event σ α → Prop)
    (kept : ∀ history event, Inv history event.before → Condition history event →
      Inv (history ++ [event]) (event.left step))
    (state : σ) (calls : List α) (holds : Inv [] state)
    (conditions : AtEachCall step state calls Condition) : AtEachState step state calls Inv := by
  induction calls using List.reverseRecOn with
  | nil =>
    intro earlier isPrefix
    rw [List.prefix_nil.mp isPrefix]
    exact holds
  | append_singleton earlier call inductionHypothesis =>
    rw [at_each_call_append_singleton] at conditions
    have before := inductionHypothesis conditions.1
    rw [at_each_state_append_singleton, trace_append_singleton, after_append_singleton]
    exact ⟨before, kept _ _ (before earlier List.prefix_rfl) conditions.2⟩

/-- Two conditions that agree wherever an invariant of all calls holds are met by the
same runs. -/
theorem at_each_call_congr (Inv : List (Event σ α) → σ → Prop)
    (First Second : List (Event σ α) → Event σ α → Prop)
    (kept : ∀ history event, Inv history event.before →
      Inv (history ++ [event]) (event.left step))
    (agree : ∀ history event, Inv history event.before →
      (First history event ↔ Second history event))
    (state : σ) (calls : List α) (holds : Inv [] state) :
    AtEachCall step state calls First ↔ AtEachCall step state calls Second := by
  have throughout : AtEachState step state calls Inv :=
    history_along step Inv (fun _ _ => True) (fun history event met _ => kept history event met)
      state calls holds (fun _ _ _ => trivial)
  have same : ∀ earlier call, earlier ++ [call] <+: calls →
      (First (trace step state earlier) ⟨after step state earlier, call⟩ ↔
        Second (trace step state earlier) ⟨after step state earlier, call⟩) :=
    fun earlier call isPrefix =>
      agree _ _ (throughout earlier ((List.prefix_append _ _).trans isPrefix))
  constructor
  · exact fun conditions earlier call isPrefix =>
      (same earlier call isPrefix).mp (conditions earlier call isPrefix)
  · exact fun conditions earlier call isPrefix =>
      (same earlier call isPrefix).mpr (conditions earlier call isPrefix)

/-- In a run of permitted calls, a property holds throughout exactly when each call
meets a condition, provided that something stronger holds at the start, that calls
which meet the condition keep it, and that from it no other call keeps the property.

Proof: where the conditions are met, the stronger property holds throughout. Where
the property holds throughout, each call is seen in turn to meet its condition and
therefore to keep the stronger property for the next. -/
theorem strengthened_throughout_iff (Strong Good : List (Event σ α) → σ → Prop)
    (Permitted Condition : List (Event σ α) → Event σ α → Prop)
    (implies : ∀ history state, Strong history state → Good history state)
    (kept : ∀ history event, Strong history event.before → Permitted history event →
      Condition history event → Strong (history ++ [event]) (event.left step))
    (needed : ∀ history event, Strong history event.before → Permitted history event →
      Good (history ++ [event]) (event.left step) → Condition history event)
    (state : σ) (calls : List α) (holds : Strong [] state)
    (permitted : AtEachCall step state calls Permitted) :
    AtEachState step state calls Good ↔ AtEachCall step state calls Condition := by
  constructor
  · intro throughout
    have next : AtEachCall step state calls
        (fun history event => Good (history ++ [event]) (event.left step)) := by
      intro earlier call isPrefix
      have last := throughout (earlier ++ [call]) isPrefix
      rwa [trace_append_singleton, after_append_singleton] at last
    have strong : AtEachState step state calls Strong :=
      history_along step Strong
        (fun history event => Permitted history event ∧
          Good (history ++ [event]) (event.left step))
        (fun history event met both => kept history event met both.1
          (needed history event met both.1 both.2))
        state calls holds
        (fun earlier call isPrefix =>
          ⟨permitted earlier call isPrefix, next earlier call isPrefix⟩)
    intro earlier call isPrefix
    exact needed _ _ (strong earlier ((List.prefix_append _ _).trans isPrefix))
      (permitted earlier call isPrefix) (next earlier call isPrefix)
  · intro conditions earlier isPrefix
    have strong : AtEachState step state calls Strong :=
      history_along step Strong
        (fun history event => Permitted history event ∧ Condition history event)
        (fun history event met both => kept history event met both.1 both.2) state calls holds
        (fun earlier call isPrefix =>
          ⟨permitted earlier call isPrefix, conditions earlier call isPrefix⟩)
    exact implies _ _ (strong earlier isPrefix)

/-- In a run of permitted calls, a property of histories and states holds throughout
exactly when each call meets the condition that carries the property over it. -/
theorem history_throughout_iff (Inv Good : List (Event σ α) → σ → Prop)
    (Permitted Condition : List (Event σ α) → Event σ α → Prop)
    (kept : ∀ history event, Inv history event.before → Permitted history event →
      Inv (history ++ [event]) (event.left step))
    (exact : ∀ history event, Inv history event.before → Permitted history event →
      Good history event.before →
        (Good (history ++ [event]) (event.left step) ↔ Condition history event))
    (state : σ) (calls : List α) (holds : Inv [] state) (good : Good [] state)
    (permitted : AtEachCall step state calls Permitted) :
    AtEachState step state calls Good ↔ AtEachCall step state calls Condition :=
  strengthened_throughout_iff step (fun history state => Inv history state ∧ Good history state)
    Good Permitted Condition (fun _ _ both => both.2)
    (fun history event both allowed condition =>
      ⟨kept history event both.1 allowed,
        (exact history event both.1 allowed both.2).mpr condition⟩)
    (fun history event both allowed => (exact history event both.1 allowed both.2).mp)
    state calls ⟨holds, good⟩ permitted

/-- The events of a run are its calls, each in the state left by those before it. -/
theorem mem_trace_iff (state : σ) (calls : List α) (event : Event σ α) :
    event ∈ trace step state calls ↔
      ∃ earlier, earlier ++ [event.call] <+: calls ∧ event.before = after step state earlier := by
  induction calls using List.reverseRecOn with
  | nil => simp
  | append_singleton earlier call inductionHypothesis =>
    rw [trace_append_singleton, List.mem_append, inductionHypothesis, List.mem_singleton]
    constructor
    · rintro (⟨shorter, isPrefix, before⟩ | rfl)
      · exact ⟨shorter, isPrefix.trans (List.prefix_append _ _), before⟩
      · exact ⟨earlier, List.prefix_rfl, rfl⟩
    · rintro ⟨shorter, isPrefix, before⟩
      rcases List.prefix_concat_iff.mp isPrefix with same | within
      · obtain ⟨rfl, sameCall⟩ := List.append_inj' same rfl
        right
        rw [← before, ← List.singleton_inj.mp sameCall]
      · exact Or.inl ⟨shorter, within, before⟩

/-- A condition on single events is met at each call exactly when every event of
the run meets it. -/
theorem at_each_call_iff (state : σ) (calls : List α) (Condition : Event σ α → Prop) :
    AtEachCall step state calls (fun _ event => Condition event) ↔
      ∀ event ∈ trace step state calls, Condition event := by
  constructor
  · intro conditions event member
    obtain ⟨earlier, isPrefix, before⟩ := (mem_trace_iff step state calls event).mp member
    have met := conditions earlier event.call isPrefix
    rwa [← before] at met
  · intro conditions earlier call isPrefix
    exact conditions _ ((mem_trace_iff step state calls _).mpr ⟨earlier, isPrefix, rfl⟩)

/-- Every event of the history that asks is followed by one that answers. -/
def Answered (asks answers : Event σ α → Prop) (history : List (Event σ α)) : Prop :=
  ∀ earlier event later, history = earlier ++ event :: later → asks event →
    ∃ other ∈ later, answers other

/-- Nothing has been asked before a run. -/
theorem answered_nil (asks answers : Event σ α → Prop) : Answered asks answers [] :=
  fun earlier event later none => absurd none.symm (by simp)

/-- One more event leaves everything answered exactly if it does not ask, and answers or finds
everything answered. -/
theorem answered_append_singleton (asks answers : Event σ α → Prop) (history : List (Event σ α))
    (event : Event σ α) :
    Answered asks answers (history ++ [event]) ↔
      ¬ asks event ∧ (answers event ∨ Answered asks answers history) := by
  constructor
  · intro answered
    refine ⟨fun asked => ?_, or_iff_not_imp_left.mpr fun silent => ?_⟩
    · obtain ⟨other, member, _⟩ := answered history event [] rfl asked
      exact List.not_mem_nil member
    · intro earlier other later split asked
      obtain ⟨answer, member, answers⟩ :=
        answered earlier other (later ++ [event]) (by rw [split]; simp) asked
      rcases List.mem_append.mp member with within | last
      · exact ⟨answer, within, answers⟩
      · rw [List.mem_singleton.mp last] at answers
        exact absurd answers silent
  · rintro ⟨quiet, answer⟩ earlier other later split asked
    rcases List.eq_nil_or_concat later with rfl | ⟨middle, last, rfl⟩
    · obtain ⟨_, same⟩ := List.append_inj' split rfl
      rw [← List.singleton_inj.mp same] at asked
      exact absurd asked quiet
    · rw [List.concat_eq_append, ← List.cons_append, ← List.append_assoc] at split
      obtain ⟨before, same⟩ := List.append_inj' split rfl
      rw [List.concat_eq_append, ← List.singleton_inj.mp same]
      rcases answer with answers | answered
      · exact ⟨event, List.mem_append_right _ List.mem_cons_self, answers⟩
      · obtain ⟨reply, member, answers⟩ := answered earlier other middle before asked
        exact ⟨reply, List.mem_append_left _ member, answers⟩

end Histories

/-- A property of states holds throughout a run exactly when each of its calls
meets the condition that carries the property over that call. -/
theorem throughout_iff (Inv Good : σ → Prop) (Condition : Event σ α → Prop)
    (kept : ∀ state call, Inv state → Inv (step state call).1)
    (exact : ∀ event, Inv event.before → Good event.before →
      (Good (event.left step) ↔ Condition event))
    (state : σ) (calls : List α) (holds : Inv state) (good : Good state) :
    (∀ earlier, earlier <+: calls → Good (after step state earlier)) ↔
      ∀ event ∈ trace step state calls, Condition event :=
  (history_throughout_iff step (fun _ => Inv) (fun _ => Good) (fun _ _ => True)
    (fun _ => Condition) (fun _ event met _ => kept event.before event.call met)
    (fun _ event met _ => exact event met) state calls holds good
    (fun _ _ _ => trivial)).trans (at_each_call_iff step state calls Condition)

/-- The replies to the calls in order. -/
def replies (step : σ → α → σ × ρ) : σ → List α → List ρ
  | _, [] => []
  | state, call :: rest => (step state call).2 :: replies step (step state call).1 rest

/-- Replies to two lists of calls are those to the first and, from where it ends, those to
the second. -/
theorem replies_append (state : σ) (first second : List α) :
    replies step state (first ++ second) =
      replies step state first ++ replies step (after step state first) second := by
  induction first generalizing state with
  | nil => rfl
  | cons call rest inductionHypothesis =>
    exact congrArg ((step state call).2 :: ·) (inductionHypothesis (step state call).1)

/-- No list of observing calls tells the two states apart. -/
def Indistinguishable (step : σ → α → σ × ρ) (Observes : α → Prop) (first second : σ) : Prop :=
  ∀ calls, (∀ call ∈ calls, Observes call) → replies step first calls = replies step second calls

/-- Indistinguishable states reply alike to one observing call. -/
theorem indistinguishable_call (Observes : α → Prop) (first second : σ)
    (same : Indistinguishable step Observes first second) (call : α) (observes : Observes call) :
    (step first call).2 = (step second call).2 := by
  have alone := same [call] (fun other member => List.mem_singleton.mp member ▸ observes)
  exact (List.cons.inj alone).1

/-- The simulation rule: when two systems, from related states, answer the observing
calls alike and stay related, they give the same replies to a list of such calls and
end in related states. -/
theorem replies_refine {τ : Type x} (other : τ → α → τ × ρ) (Observes : α → Prop)
    (Related : σ → τ → Prop)
    (alike : ∀ first second call, Related first second → Observes call →
      (step first call).2 = (other second call).2 ∧
        Related (step first call).1 (other second call).1)
    (first : σ) (second : τ) (related : Related first second) (calls : List α)
    (observes : ∀ call ∈ calls, Observes call) :
    replies step first calls = replies other second calls ∧
      Related (after step first calls) (after other second calls) := by
  induction calls generalizing first second with
  | nil => exact ⟨rfl, related⟩
  | cons call rest inductionHypothesis =>
    obtain ⟨reply, next⟩ := alike first second call related (observes call List.mem_cons_self)
    obtain ⟨later, final⟩ := inductionHypothesis (step first call).1 (other second call).1 next
      (fun another member => observes another (List.mem_cons_of_mem _ member))
    exact ⟨congrArg₂ List.cons reply later, final⟩

/-- States in a relation that the observing calls keep, and under which they are
answered alike, are indistinguishable. -/
theorem indistinguishable_of (Observes : α → Prop) (Related : σ → σ → Prop)
    (alike : ∀ first second call, Related first second → Observes call →
      (step first call).2 = (step second call).2 ∧ Related (step first call).1 (step second call).1)
    (first second : σ) (related : Related first second) :
    Indistinguishable step Observes first second :=
  fun calls observes =>
    (replies_refine step step Observes Related alike first second related calls observes).1

section LastWrites

variable {κ : Type x} {β : Type*}

/-- The value that the most recent event putting one at this key has put. -/
def lastPut (put : Event σ α → κ → Option β) (events : List (Event σ α)) (key : κ) : Option β :=
  events.reverse.findSome? (fun event => put event key)

/-- The latest event decides; an event that puts nothing leaves the earlier value. -/
theorem lastPut_append_singleton (put : Event σ α → κ → Option β) (events : List (Event σ α))
    (event : Event σ α) (key : κ) :
    lastPut put (events ++ [event]) key = (put event key).or (lastPut put events key) := by
  simp only [lastPut]
  rw [List.reverse_append, List.reverse_singleton, List.singleton_append, List.findSome?_cons]
  cases put event key <;> rfl

/-- The last-write rule: when every permitted call changes a keyed view of the
state exactly where it puts a value, and to that value, the view after a run is
the last value put at each key, or the initial view where nothing was put.

Proof: by induction on the run, extended at its end. The invariant is available
in the state that the last call met. -/
theorem view_after (Inv : σ → Prop) (Permitted : Event σ α → Prop) (Domain : κ → Prop)
    (view : σ → κ → β) (put : Event σ α → κ → Option β)
    (kept : ∀ event, Inv event.before → Permitted event → Inv (event.left step))
    (governed : ∀ event key, Inv event.before → Permitted event → Domain key →
      view (event.left step) key = (put event key).getD (view event.before key))
    (state : σ) (calls : List α) (holds : Inv state)
    (permitted : ∀ event ∈ trace step state calls, Permitted event)
    (key : κ) (inDomain : Domain key) :
    view (after step state calls) key =
      (lastPut put (trace step state calls) key).getD (view state key) := by
  induction calls using List.reverseRecOn with
  | nil => rfl
  | append_singleton earlier call inductionHypothesis =>
    rw [trace_append_singleton] at permitted ⊢
    have earlierPermitted : ∀ event ∈ trace step state earlier, Permitted event :=
      fun event member => permitted event (List.mem_append_left _ member)
    have lastPermitted : Permitted ⟨after step state earlier, call⟩ :=
      permitted _ (List.mem_append_right _ List.mem_cons_self)
    have invariant : Inv (after step state earlier) :=
      (invariant_along step Inv Permitted kept state earlier holds earlierPermitted).1
    have last := governed ⟨after step state earlier, call⟩ key invariant lastPermitted inDomain
    rw [after_append_singleton, lastPut_append_singleton]
    apply last.trans
    rw [inductionHypothesis earlierPermitted]
    cases put ⟨after step state earlier, call⟩ key <;> rfl

end LastWrites

end LddExamples.Runs
