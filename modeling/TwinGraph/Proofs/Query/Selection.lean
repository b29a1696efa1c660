import TwinGraph.Proofs.Query.Closed
import TwinGraph.Proofs.Query.Refusals

/-!
# Selections before and after a cap

There are two ways to choose entries.  On a query without a projection blank entries are dropped,
and on a capped query all entries are taken as they are.  The second way is stricter only in that it
refuses blank entries, which is not checked anywhere: a blank text names no alias of a scope.  Where
both ways succeed, the cap may come first or last.
-/

namespace TwinGraph
namespace Query

variable {query after : Query} {entries : List String} {entry : String} {limit : UInt16}

theorem stage_ne_of_isOpen (isOpen : query.stage.isOpen = true) :
    query.stage ≠ .topped ∧ query.stage ≠ .selected := by
  constructor <;> intro stage <;> simp [stage, Stage.isOpen] at isOpen

/-- A query without a projection offers every call that completes it. -/
theorem offers_of_isOpen (isOpen : query.stage.isOpen = true) {kind : CallKind}
    (completes : kind.completes = true) : query.offers kind = true := by
  cases kind with
  | select => simp [offers, isOpen]
  | top => cases stage : query.stage <;> simp [stage, Stage.isOpen, offers] at isOpen ⊢
  | count => exact isOpen
  | _ => cases completes

theorem chosen_of_isOpen (isOpen : query.stage.isOpen = true) (entries : List String) :
    query.chosen entries = ⟨entries.filter fun entry => !Text.isBlank entry, none⟩ :=
  if_neg (stage_ne_of_isOpen isOpen).1

theorem capped_of_isOpen (isOpen : query.stage.isOpen = true) (limit : UInt16) :
    query.capped limit = { query with
      projection := query.rootProjection (some limit), stage := .topped } :=
  if_neg (stage_ne_of_isOpen isOpen).2

theorem filter_eq_self_of_nonBlank (nonBlank : ∀ entry ∈ entries, Text.isBlank entry = false) :
    (entries.filter fun entry => !Text.isBlank entry) = entries := by
  refine List.filter_eq_self.mpr fun entry member => ?_
  rw [nonBlank entry member]
  rfl

theorem chosen_of_nonBlank (isOpen : query.stage.isOpen = true)
    (nonBlank : ∀ entry ∈ entries, Text.isBlank entry = false) :
    query.chosen entries = ⟨entries, none⟩ := by
  rw [chosen_of_isOpen isOpen, filter_eq_self_of_nonBlank nonBlank]

theorem run_select_eq_ok_iff (isOpen : query.stage.isOpen = true) :
    query.run [.select entries] = .ok after ↔
      query.Projects (query.chosen entries).entries ∧
        after = query.extended (.select entries) := by
  have offered : query.offers .select = true := offers_of_isOpen isOpen rfl
  simp [run_cons_eq_ok_iff, Call.kind, offered, Admits, eq_comm (a := after)]

theorem run_select_top_eq_ok_iff (isOpen : query.stage.isOpen = true) :
    query.run [.select entries, .top limit] = .ok after ↔
      query.Projects (query.chosen entries).entries ∧ after = { query with
        projection := .select ⟨(query.chosen entries).entries, some limit⟩
        stage := .selected } := by
  have offered : query.offers .select = true := offers_of_isOpen isOpen rfl
  simp only [run_cons_eq_ok_iff, run_nil, Call.kind, offered, Admits, true_and]
  simp [extended, offers, capped, recap, eq_comm (a := after)]

theorem run_top_select_eq_ok_iff (isOpen : query.stage.isOpen = true) :
    query.run [.top limit, .select entries] = .ok after ↔
      query.Projects entries ∧ after = { query with
        projection := .select ⟨entries, some limit⟩, stage := .selected } := by
  have offered : query.offers .top = true := offers_of_isOpen isOpen rfl
  simp only [run_cons_eq_ok_iff, run_nil, Call.kind, offered, Admits, true_and]
  simp [extended, capped_of_isOpen isOpen, offers, chosen, rootProjection, Projection.top,
    Projects, eq_comm (a := after)]

theorem run_select_of_outsider (isOpen : query.stage.isOpen = true)
    (outsider : query.outsider? (query.chosen entries).entries = some entry) (rest : List Call) :
    query.run (.select entries :: rest) = .error (.refused (query.outsiderError entry)) := by
  have offered : query.offers .select = true := offers_of_isOpen isOpen rfl
  exact run_cons_of_error (attempt_select_of_outsider offered outsider) rest

theorem run_top_select_of_outsider (isOpen : query.stage.isOpen = true)
    (outsider : query.outsider? entries = some entry) (limit : UInt16) :
    query.run [.top limit, .select entries] = .error (.refused (query.outsiderError entry)) := by
  have offered : query.offers .top = true := offers_of_isOpen isOpen rfl
  have first : query.attempt (.top limit) = .ok { query with
      projection := query.rootProjection (some limit), stage := .topped } :=
    attempt_eq_ok_iff.mpr ⟨offered, trivial, (capped_of_isOpen isOpen limit).symm⟩
  rw [run_cons_of_ok first]
  -- The cap has left the scope as it was, so the same entry is the first one outside of it.
  have refused : ({ query with
      projection := query.rootProjection (some limit), stage := .topped } : Query).attempt
        (.select entries) = .error (.refused (query.outsiderError entry)) :=
    attempt_select_of_outsider rfl outsider
  exact run_cons_of_error refused []

/-- On a query without a projection, choosing entries after a cap succeeds if choosing them alone
does and none of them is blank, and gives what the cap gives when it comes last.  Entries outside
of the scope are refused in both orders alike, and a blank entry is always outside after a cap. -/
theorem top_select_agrees (query : Query) (reached : query.Reachable)
    (isOpen : query.stage.isOpen = true) (entries : List String) (limit : UInt16) :
    ((∃ after, query.run [.top limit, .select entries] = .ok after) ↔
      (∃ after, query.run [.select entries] = .ok after) ∧
        ∀ entry ∈ entries, Text.isBlank entry = false) ∧
    (∀ after, query.run [.top limit, .select entries] = .ok after →
      query.run [.select entries, .top limit] = .ok after) ∧
    ((∀ entry ∈ entries, Text.isBlank entry = false) →
      (∃ entry ∈ entries, Text.firstPart '.' entry ∉ query.scope.aliases) →
        ∃ entry, query.outsider? entries = some entry ∧
          query.run [.top limit, .select entries] =
            .error (.refused (query.outsiderError entry)) ∧
          query.run [.select entries] = .error (.refused (query.outsiderError entry))) ∧
    ((∃ entry ∈ entries, Text.isBlank entry = true) →
      ∃ entry, query.outsider? entries = some entry ∧
        query.run [.top limit, .select entries] =
          .error (.refused (query.outsiderError entry))) := by
  have agrees : query.WellScoped := reached.wellScoped
  refine ⟨⟨?_, ?_⟩, ?_, ?_, ?_⟩
  · rintro ⟨after, made⟩
    obtain ⟨projects, -⟩ := (run_top_select_eq_ok_iff isOpen).mp made
    have nonBlank := projects.nonBlank agrees
    have lenient : query.Projects (query.chosen entries).entries := by
      rwa [chosen_of_nonBlank isOpen nonBlank]
    exact ⟨⟨_, (run_select_eq_ok_iff isOpen).mpr ⟨lenient, rfl⟩⟩, nonBlank⟩
  · rintro ⟨⟨after, made⟩, nonBlank⟩
    obtain ⟨projects, -⟩ := (run_select_eq_ok_iff isOpen).mp made
    rw [chosen_of_nonBlank isOpen nonBlank] at projects
    exact ⟨_, (run_top_select_eq_ok_iff isOpen).mpr ⟨projects, rfl⟩⟩
  · intro after made
    obtain ⟨projects, rfl⟩ := (run_top_select_eq_ok_iff isOpen).mp made
    have chosen := chosen_of_nonBlank isOpen (projects.nonBlank agrees)
    rw [run_select_top_eq_ok_iff isOpen, chosen]
    exact ⟨projects, rfl⟩
  · rintro nonBlank ⟨entry, member, outside⟩
    obtain ⟨first, outsider⟩ := exists_outsider member outside
    have chosen := chosen_of_nonBlank isOpen nonBlank
    refine ⟨first, outsider, run_top_select_of_outsider isOpen outsider limit, ?_⟩
    refine run_select_of_outsider isOpen ?_ []
    rw [chosen]
    exact outsider
  · rintro ⟨entry, member, blank⟩
    obtain ⟨first, outsider⟩ := exists_outsider member (agrees.notMem_of_isBlank blank)
    exact ⟨first, outsider, run_top_select_of_outsider isOpen outsider limit⟩

/-- Entries that both orders accept, and some of which one is blank and another one, before it, is
outside of the scope. -/
theorem top_select_agrees_on_twin :
    let query : Query := ⟨.base, "twin", ⟨.digitalTwins, "twin"⟩, ⟨["twin"]⟩, [], none,
      .select ⟨["twin"], none⟩, false⟩
    let after : Query := { query with
      stage := .selected, projection := .select ⟨["twin.name", "twin"], some 3⟩ }
    query.Reachable ∧ query.stage.isOpen = true ∧
      query.run [.top 3, .select ["twin.name", "twin"]] = .ok after ∧
      query.run [.select ["twin.name", "twin"], .top 3] = .ok after ∧
      query.run [.top 3, .select ["twin", "desk", " "]] =
        .error (.refused (.unknownAlias "desk" ["twin"])) := by
  intro query after
  have reached : query.Reachable := @Reachable.start .new .digitalTwins query .new rfl
  obtain ⟨-, commutes, -, -⟩ := top_select_agrees query reached rfl ["twin.name", "twin"] 3
  have capFirst : query.run [.top 3, .select ["twin.name", "twin"]] = .ok after := by rfl
  obtain ⟨-, -, -, refuses⟩ := top_select_agrees query reached rfl ["twin", "desk", " "] 3
  obtain ⟨entry, outsider, refused⟩ := refuses ⟨" ", by simp, by rfl⟩
  have first : query.outsider? ["twin", "desk", " "] = some "desk" := by rfl
  obtain rfl : entry = "desk" := Option.some.inj (outsider.symm.trans first)
  exact ⟨reached, rfl, capFirst, commutes after capFirst, refused⟩

end Query
end TwinGraph
