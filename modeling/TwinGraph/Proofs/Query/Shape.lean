import TwinGraph.Proofs.Configuration
import TwinGraph.Proofs.Query.Run

/-!
# What the stage of a query tells of its clauses

The stage is no part of the text of a query, but it decides which calls come next.  It does not lie:
it tells whether there is a condition that a selection or a count may still follow, and which form
the projection has.
-/

namespace TwinGraph

/-- Whether calls of a kind complete a query, which has a text then. -/
def CallKind.completes : CallKind → Bool
  | select | top | count => true
  | join | filter => false

/-- The stage of a query after a call of a kind that it offers. -/
def Stage.after (stage : Stage) : CallKind → Stage
  | .join => stage
  | .filter => .filtered
  | .select => .selected
  | .top => if stage = .selected then .selected else .topped
  | .count => .counted

namespace Query

variable {query before after : Query} {call : Call} {calls : List Call}

@[simp]
theorem offers_filter : query.offers .filter = true ↔ query.stage = .base := by
  simp [offers]

@[simp]
theorem stage_extended (query : Query) (call : Call) :
    (query.extended call).stage = query.stage.after call.kind := by
  cases call with
  | top limit =>
    have shape : query.extended (.top limit) = query.capped limit := rfl
    rw [shape, capped]
    split <;> simp [Stage.after, Call.kind, *]
  | _ => rfl

/-- A call that completes a query leaves all the clauses but the projection as they are. -/
theorem extended_eq_of_completes (query : Query) {call : Call}
    (completes : call.kind.completes = true) :
    query.extended call = { query with
      stage := (query.extended call).stage, projection := (query.extended call).projection } := by
  cases call with
  | join join => cases completes
  | filter condition => cases completes
  | select entries => rfl
  | top limit =>
    have shape : query.extended (.top limit) = query.capped limit := rfl
    rw [shape, capped]
    split <;> rfl
  | count => rfl

theorem run_eq_of_completes (completes : ∀ call ∈ calls, call.kind.completes = true)
    (made : before.run calls = .ok after) :
    after = { before with stage := after.stage, projection := after.projection } := by
  induction calls generalizing before with
  | nil =>
    cases made
    rfl
  | cons call calls induction =>
    rw [List.forall_mem_cons] at completes
    obtain ⟨-, -, rest⟩ := run_cons_eq_ok_iff.mp made
    have kept := induction completes.2 rest
    rwa [before.extended_eq_of_completes completes.1] at kept

@[simp]
theorem origin_extended (query : Query) (call : Call) :
    (query.extended call).origin = query.origin := by
  cases completes : call.kind.completes with
  | true => rw [query.extended_eq_of_completes completes]
  | false =>
    cases call with
    | join join => rfl
    | filter condition => rfl
    | _ => cases completes

/-- What the stage of a query tells of its condition and its projection. -/
def Shaped (query : Query) : Prop :=
  match query.stage with
  | .base => query.condition = none ∧ query.projection = .select ⟨[query.root], none⟩
  | .filtered =>
    query.condition.isSome = true ∧ query.projection = .select ⟨[query.root], none⟩
  | .topped => ∃ limit, query.projection = .select ⟨[query.root], some limit⟩
  | .selected => ∃ selection, query.projection = .select selection ∧ selection.entries ≠ []
  | .counted => query.projection = .count

namespace Shaped

theorem of_base (shaped : query.Shaped) (stage : query.stage = .base) :
    query.condition = none ∧ query.projection = .select ⟨[query.root], none⟩ := by
  simpa only [Shaped, stage] using shaped

theorem of_selected (shaped : query.Shaped) (stage : query.stage = .selected) :
    ∃ selection, query.projection = .select selection ∧ selection.entries ≠ [] := by
  simpa only [Shaped, stage] using shaped

/-- Before it is completed, a query gives its root. -/
theorem projection_of_isOpen (shaped : query.Shaped) (isOpen : query.stage.isOpen = true) :
    query.projection = .select ⟨[query.root], none⟩ := by
  unfold Shaped at shaped
  cases stage : query.stage with
  | base => exact (stage ▸ shaped : _ ∧ _).2
  | filtered => exact (stage ▸ shaped : _ ∧ _).2
  | selected => simp [stage, Stage.isOpen] at isOpen
  | topped => simp [stage, Stage.isOpen] at isOpen
  | counted => simp [stage, Stage.isOpen] at isOpen

theorem of_start {collection : Collection} {root : String} {logRendered : Bool}
    (made : (Query.start collection root logRendered).outcome = .ok query) : query.Shaped := by
  cases made
  exact ⟨rfl, rfl⟩

theorem capped (shaped : query.Shaped) (limit : UInt16) : (query.capped limit).Shaped := by
  unfold Query.capped
  split
  case isTrue selected =>
    obtain ⟨selection, chosen, nonempty⟩ := shaped.of_selected selected
    have recapped : recap limit query.projection =
        .select { selection with top := some limit } := by
      rw [chosen]
      rfl
    simp only [Shaped, selected]
    exact ⟨_, recapped, nonempty⟩
  case isFalse => exact ⟨limit, rfl⟩

theorem extended (shaped : query.Shaped) (offered : query.offers call.kind = true)
    (admitted : query.Admits call) : (query.extended call).Shaped := by
  cases call with
  | join join => exact shaped
  | filter condition =>
    have base : query.stage = .base := offers_filter.mp offered
    exact ⟨rfl, (shaped.of_base base).2⟩
  | select entries => exact ⟨_, rfl, admitted.1⟩
  | top limit => exact shaped.capped limit
  | count => exact (rfl : Projection.count = .count)

end Shaped

theorem Reachable.shaped (reached : query.Reachable) : query.Shaped := by
  induction reached with
  | start _ made => exact .of_start made
  | startAs _ made =>
    obtain ⟨-, started⟩ := Builder.outcome_startAs_eq_ok_iff.mp made
    exact .of_start started
  | perform _ offered made shaped =>
    obtain ⟨admitted, rfl⟩ := outcome_perform_eq_ok_iff.mp made
    exact shaped.extended offered admitted

/-- What calls of some kinds bring and no call takes away is there after a run if it was there
before or one of these calls was made. -/
theorem has_of_run_iff (has : Query → Prop) (brings : CallKind → Prop)
    (step : ∀ (query : Query) (call : Call), query.offers call.kind = true →
      (has (query.extended call) ↔ has query ∨ brings call.kind))
    (made : before.run calls = .ok after) :
    has after ↔ has before ∨ ∃ kind ∈ calls.map Call.kind, brings kind := by
  induction calls generalizing before with
  | nil =>
    cases made
    simp
  | cons call calls induction =>
    obtain ⟨offered, -, rest⟩ := run_cons_eq_ok_iff.mp made
    rw [induction rest, step before call offered, or_assoc]
    simp only [List.map_cons, List.mem_cons, exists_eq_or_imp]

theorem isSome_condition_extended (query : Query) (call : Call) :
    (query.extended call).condition.isSome = true ↔
      query.condition.isSome = true ∨ call.kind = .filter := by
  cases completes : call.kind.completes with
  | true =>
    have differs : call.kind ≠ .filter := by
      intro kind
      rw [kind] at completes
      cases completes
    rw [query.extended_eq_of_completes completes]
    simp [differs]
  | false =>
    cases call with
    | join join => simp [Query.extended, Call.kind]
    | filter condition => simp [Query.extended, Call.kind]
    | _ => cases completes

theorem isSome_condition_of_run (made : before.run calls = .ok after) :
    after.condition.isSome = true ↔
      before.condition.isSome = true ∨ .filter ∈ calls.map Call.kind := by
  have gained := has_of_run_iff (·.condition.isSome = true) (· = .filter)
    (fun query call _ => isSome_condition_extended query call) made
  simpa only [exists_eq_right] using gained

theorem isTerminal_extended (offered : query.offers call.kind = true) :
    (query.extended call).stage.isTerminal = true ↔
      query.stage.isTerminal = true ∨ call.kind.completes = true := by
  rw [stage_extended]
  cases kind : call.kind with
  | join => simp [Stage.after, CallKind.completes]
  | filter =>
    rw [kind, offers_filter] at offered
    simp [offered, Stage.after, Stage.isTerminal, CallKind.completes]
  | select => simp [Stage.after, Stage.isTerminal, CallKind.completes]
  | top =>
    simp only [Stage.after, CallKind.completes, or_true, iff_true]
    split <;> rfl
  | count => simp [Stage.after, Stage.isTerminal, CallKind.completes]

theorem isTerminal_of_run (made : before.run calls = .ok after) :
    after.stage.isTerminal = true ↔
      before.stage.isTerminal = true ∨ (calls.map Call.kind).any CallKind.completes = true := by
  have gained := has_of_run_iff (·.stage.isTerminal = true) (·.completes = true)
    (fun _ _ => isTerminal_extended) made
  simpa only [List.any_eq_true] using gained

end Query
end TwinGraph
