import TwinGraph.Proofs.Condition.Calls
import TwinGraph.Query

/-!
# What a call does to a query

For each call the exact condition under which it succeeds, and the query that it gives then.  What
holds of every query that calls lead to is derived from these statements alone.
-/

namespace TwinGraph

theorem mapError_eq_ok_iff {ε ε' α : Type} {outcome : Except ε α} {tell : ε → ε'} {result : α} :
    outcome.mapError tell = .ok result ↔ outcome = .ok result := by
  cases outcome with
  | ok found =>
    have mapped : (Except.ok found).mapError tell = .ok found := rfl
    simp [mapped]
  | error error =>
    have mapped : (Except.error error : Except ε α).mapError tell = .error (tell error) := rfl
    simp [mapped]

theorem bind_eq_ok_iff {ε α β : Type} {first : Except ε α} {next : α → Except ε β} {result : β} :
    first.bind next = .ok result ↔ ∃ middle, first = .ok middle ∧ next middle = .ok result := by
  cases first with
  | ok middle => simp [Except.bind]
  | error error => simp [Except.bind]

theorem bind_eq_error_iff {ε α β : Type} {first : Except ε α} {next : α → Except ε β} {error : ε} :
    first.bind next = .error error ↔
      first = .error error ∨ ∃ middle, first = .ok middle ∧ next middle = .error error := by
  cases first with
  | ok middle => simp [Except.bind]
  | error error => simp [Except.bind]

namespace Traced

variable {ε α β : Type}

theorem outcome_bind_eq_ok_iff {call : Traced ε α} {next : α → Traced ε β} {result : β} :
    (call >>= next).outcome = .ok result ↔
      ∃ middle, call.outcome = .ok middle ∧ (next middle).outcome = .ok result := by
  rw [outcome_bind]
  exact bind_eq_ok_iff

@[simp]
theorem outcome_silent (outcome : Except ε α) : (silent outcome).outcome = outcome := rfl

@[simp]
theorem outcome_record (event : Event) : (record event : Traced ε Unit).outcome = .ok () := rfl

end Traced

namespace Scope

theorem outcome_require_eq_ok_iff {scope : Scope} {name : String} {result : Unit} :
    (scope.require name).outcome = .ok result ↔ name ∈ scope.aliases := by
  by_cases member : name ∈ scope.aliases
  · simp [require_of_mem member, member]
  · simp [require_of_notMem member, member]

theorem outcome_requireAll_eq_ok_iff {scope : Scope} {names : List String} {result : Unit} :
    (scope.requireAll names).outcome = .ok result ↔ ∀ name ∈ names, name ∈ scope.aliases := by
  constructor
  · intro accepted
    induction names with
    | nil => simp
    | cons name rest induction =>
      obtain ⟨_, first, others⟩ := Traced.outcome_bind_eq_ok_iff.mp accepted
      exact List.forall_mem_cons.mpr ⟨outcome_require_eq_ok_iff.mp first, induction others⟩
  · intro members
    rw [requireAll_of_subset members]
    rfl

theorem introduceOptional_eq_ok_iff {before after : Scope} {field : String}
    {name? : Option String} :
    before.introduceOptional field name? = .ok after ↔
      (∀ name ∈ name?, IsAlias name ∧ name ∉ before.aliases) ∧
        after = ⟨before.aliases ++ name?.toList⟩ := by
  cases name? with
  | none => simp [introduceOptional, eq_comm (a := before)]
  | some name => simp [introduceOptional, introduce_eq_ok_iff, and_assoc]

end Scope

namespace Query

variable {before after : Query}

@[simp]
theorem outcome_advance (query : Query) (stage : Stage) :
    (query.advance stage).outcome = .ok { query with stage := stage } := rfl

/-- The relationship alias is checked against a scope that holds the target already, so the two
have to differ. -/
theorem outcome_join_eq_ok_iff {join : Join} :
    (before.join join).outcome = .ok after ↔
      Text.isBlank join.relationship = false ∧ join.source ∈ before.scope.aliases ∧
        (∀ name ∈ join.introduced, IsAlias name ∧ name ∉ before.scope.aliases) ∧
        join.introduced.Nodup ∧
        after = { before with
          scope := ⟨before.scope.aliases ++ join.introduced⟩
          joins := before.joins ++ [join] } := by
  simp only [Query.join, Traced.outcome_bind_eq_ok_iff, Traced.outcome_silent,
    Traced.outcome_record, Traced.outcome_pure, requireNonBlank_eq_ok_iff,
    Scope.outcome_require_eq_ok_iff, Scope.introduce_eq_ok_iff, Scope.introduceOptional_eq_ok_iff,
    Join.introduced]
  constructor
  · rintro ⟨_, nonBlank, _, known, _, ⟨usable, fresh, rfl⟩, _, ⟨others, rfl⟩, _, _, made⟩
    cases made
    refine ⟨nonBlank, known, ?_, ?_, by simp⟩
    · intro name member
      rcases List.mem_cons.mp member with rfl | member
      · exact ⟨usable, fresh⟩
      · have other := others name (Option.mem_toList.mp member)
        exact ⟨other.1, fun old => other.2 (List.mem_append_left _ old)⟩
    · refine List.nodup_cons.mpr ⟨fun member => ?_, by cases join.relationshipAlias <;> simp⟩
      exact (others _ (Option.mem_toList.mp member)).2 (by simp)
  · rintro ⟨nonBlank, known, each, distinct, rfl⟩
    obtain ⟨usable, fresh⟩ := each join.target List.mem_cons_self
    refine ⟨(), nonBlank, (), known, _, ⟨usable, fresh, rfl⟩, _, ⟨?_, rfl⟩, (), trivial, by simp⟩
    intro name chosen
    have member := Option.mem_toList.mpr chosen
    have other := each name (List.mem_cons_of_mem _ member)
    have differs : name ≠ join.target := by
      rintro rfl
      exact (List.nodup_cons.mp distinct).1 member
    simp [other, differs]

theorem outcome_filter_eq_ok_iff {condition : Condition} :
    (before.filter condition).outcome = .ok after ↔
      (∀ name ∈ condition.aliases, name ∈ before.scope.aliases) ∧
        after = { before with condition := some condition, stage := .filtered } := by
  simp [Query.filter, Traced.outcome_bind_eq_ok_iff, Scope.outcome_requireAll_eq_ok_iff,
    eq_comm (b := after)]

/-- Whether entries can be projected: each begins with an alias of the scope. -/
def Projects (query : Query) (entries : List String) : Prop :=
  entries ≠ [] ∧ ∀ entry ∈ entries, Text.firstPart '.' entry ∈ query.scope.aliases

theorem outcome_selectOpen_eq_ok_iff {entries : List String} :
    (before.selectOpen entries).outcome = .ok after ↔
      before.Projects (entries.filter fun entry => !Text.isBlank entry) ∧
        after = { before with
          projection := .select ⟨entries.filter fun entry => !Text.isBlank entry, none⟩
          stage := .selected } := by
  unfold Query.selectOpen Projects
  generalize entries.filter (fun entry => !Text.isBlank entry) = kept
  by_cases none_left : kept = []
  · simp [none_left]
  · simp [none_left, Query.checkEntries, Traced.outcome_bind_eq_ok_iff,
      Scope.outcome_requireAll_eq_ok_iff, eq_comm (b := after)]

theorem outcome_selectTopped_eq_ok_iff {entries : List String} :
    (before.selectTopped entries).outcome = .ok after ↔
      before.Projects entries ∧
        after = { before with
          projection := .select ⟨entries, before.projection.top⟩, stage := .selected } := by
  unfold Query.selectTopped Projects
  by_cases none_given : entries = []
  · simp [none_given]
  · simp [none_given, Query.checkEntries, Traced.outcome_bind_eq_ok_iff,
      Scope.outcome_requireAll_eq_ok_iff, eq_comm (b := after)]

/-- The selection that a call makes.  After a cap it keeps the cap and the entries as they are. -/
def chosen (query : Query) (entries : List String) : Selection :=
  if query.stage = .topped then ⟨entries, query.projection.top⟩
  else ⟨entries.filter fun entry => !Text.isBlank entry, none⟩

theorem outcome_select_eq_ok_iff {entries : List String} :
    (before.select entries).outcome = .ok after ↔
      before.Projects (before.chosen entries).entries ∧
        after = { before with
          projection := .select (before.chosen entries), stage := .selected } := by
  unfold Query.select chosen
  split
  · exact outcome_selectTopped_eq_ok_iff
  · exact outcome_selectOpen_eq_ok_iff

/-- The query with a cap: a selection keeps its entries, and any other query gets the root. -/
def capped (query : Query) (limit : UInt16) : Query :=
  if query.stage = .selected then { query with projection := recap limit query.projection }
  else { query with projection := query.rootProjection (some limit), stage := .topped }

theorem outcome_top (query : Query) (limit : UInt16) :
    (query.top limit).outcome = .ok (query.capped limit) := by
  unfold Query.top capped
  cases stage : query.stage <;> simp

theorem outcome_count (query : Query) :
    query.count.outcome = .ok { query with projection := .count, stage := .counted } := rfl

end Query

theorem Builder.outcome_startAs_eq_ok_iff {builder : Builder} {collection : Collection}
    {root : String} {query : Query} :
    (builder.startAs collection root).outcome = .ok query ↔
      IsAlias root ∧
        (Query.start collection root builder.configuration.logRendered).outcome = .ok query := by
  rw [startAs, Traced.outcome_bind_eq_ok_iff, ← @validateAlias_eq_ok_iff "alias" root]
  constructor
  · rintro ⟨⟨⟩, usable, started⟩
    exact ⟨usable, started⟩
  · rintro ⟨usable, started⟩
    exact ⟨(), usable, started⟩

end TwinGraph
