import TwinGraph.Proofs.Configuration
import TwinGraph.Proofs.Session.Stored

/-!
# The scope of a query and its joins

A query never checks its scope again once a clause stands.  It does not have to: the scope is at
any time the root followed by what the joins introduced, and no call can break that.  So it is
with every query that calls lead to and with every query that a session stores.
-/

namespace TwinGraph
namespace Query

/-- The clauses of a query agree with its scope. -/
structure WellScoped (query : Query) : Prop where
  /-- The scope is the root and then, join by join, what the joins introduced. -/
  aliases_eq : query.scope.aliases = query.root :: query.joins.flatMap Join.introduced
  /-- The clause of the origin names the root. -/
  origin_root : query.origin.root = query.root
  /-- No alias stands for two things. -/
  distinct : query.scope.aliases.Nodup
  /-- Every alias can be written without quotes, whatever field it came from. -/
  usable : ∀ name ∈ query.scope.aliases, ∀ field, validateAlias field name = .ok ()
  /-- A join goes out from an alias that was there before it, and so from none that it or a later
  join introduces. -/
  sourced : ∀ earlier join later, query.joins = earlier ++ join :: later →
    join.source ∈ query.root :: earlier.flatMap Join.introduced ∧
      join.source ∉ (join :: later).flatMap Join.introduced
  /-- Every join has a relationship. -/
  related : ∀ join ∈ query.joins, Text.isBlank join.relationship = false
  /-- On relationships there is the root alone. -/
  alone : query.origin.collection = .relationships →
    query.joins = [] ∧ query.scope.aliases = [query.root]

namespace WellScoped

variable {before after : Query}

theorem isAlias {query : Query} (agrees : query.WellScoped) {name : String}
    (member : name ∈ query.scope.aliases) : IsAlias name :=
  validateAlias_eq_ok_iff.mp (agrees.usable name member "alias")

theorem root_mem_aliases {query : Query} (agrees : query.WellScoped) :
    query.root ∈ query.scope.aliases := by
  rw [agrees.aliases_eq]
  exact List.mem_cons_self

theorem isAlias_root {query : Query} (agrees : query.WellScoped) : IsAlias query.root :=
  agrees.isAlias agrees.root_mem_aliases

theorem isAlias_origin {query : Query} (agrees : query.WellScoped) :
    IsAlias query.origin.root := by
  rw [agrees.origin_root]
  exact agrees.isAlias_root

theorem mem_aliases_of_mem_introduced {query : Query} (agrees : query.WellScoped)
    {join : Join} (member : join ∈ query.joins) {name : String}
    (introduced : name ∈ join.introduced) : name ∈ query.scope.aliases := by
  rw [agrees.aliases_eq]
  exact List.mem_cons_of_mem _ (List.mem_flatMap.mpr ⟨join, member, introduced⟩)

theorem source_mem_aliases {query : Query} (agrees : query.WellScoped) {join : Join}
    (member : join ∈ query.joins) : join.source ∈ query.scope.aliases := by
  obtain ⟨earlier, later, division⟩ := List.append_of_mem member
  rw [agrees.aliases_eq, division, List.flatMap_append, ← List.cons_append]
  exact List.mem_append_left _ (agrees.sourced earlier join later division).1

/-- Only the root, the origin, the scope and the joins count, so every other part may change. -/
theorem of_same_clauses (agrees : before.WellScoped) (root : after.root = before.root)
    (origin : after.origin = before.origin) (scope : after.scope = before.scope)
    (joins : after.joins = before.joins) : after.WellScoped where
  aliases_eq := by rw [scope, root, joins, agrees.aliases_eq]
  origin_root := by rw [origin, root, agrees.origin_root]
  distinct := scope ▸ agrees.distinct
  usable := scope ▸ agrees.usable
  sourced := by rw [joins, root]; exact agrees.sourced
  related := joins ▸ agrees.related
  alone := by rw [origin, joins, scope, root]; exact agrees.alone

/-- A query with a root that can be used. -/
theorem of_start {collection : Collection} {root : String} {logRendered : Bool}
    (usable : IsAlias root)
    (made : (Query.start collection root logRendered).outcome = .ok after) : after.WellScoped := by
  cases made
  constructor
  · rfl
  · rfl
  · simp [Scope.ofRoot]
  · intro name member field
    obtain rfl : name = root := by simpa [Scope.ofRoot] using member
    exact validateAlias_eq_ok_iff.mpr usable
  · simp
  · simp
  · simp [Scope.ofRoot]

/-- An alias of the scope that was there before a join is none of those that come with it. -/
theorem source_notMem {root source : String} {earlier later : List Join}
    (distinct : (root :: (earlier ++ later).flatMap Join.introduced).Nodup)
    (known : source ∈ root :: earlier.flatMap Join.introduced) :
    source ∉ later.flatMap Join.introduced := by
  rw [List.flatMap_append, ← List.cons_append] at distinct
  intro member
  exact (List.nodup_append.mp distinct).2.2 source known source member rfl

/-- A further join leaves the joins before it as they are, and is the last one itself. -/
theorem source_mem_of_append {root : String} {joins : List Join} {join : Join}
    (sourced : ∀ earlier other later, joins = earlier ++ other :: later →
      other.source ∈ root :: earlier.flatMap Join.introduced)
    (known : join.source ∈ root :: joins.flatMap Join.introduced) {earlier later : List Join}
    {other : Join} (division : joins ++ [join] = earlier ++ other :: later) :
    other.source ∈ root :: earlier.flatMap Join.introduced := by
  rcases List.eq_nil_or_concat later with rfl | ⟨initial, last, rfl⟩
  · obtain ⟨rfl, rfl⟩ : joins = earlier ∧ join = other := by simpa using division
    exact known
  · have regrouped : joins ++ [join] = (earlier ++ other :: initial) ++ [last] := by
      simpa using division
    exact sourced _ _ _ (List.append_inj_left' regrouped rfl)

theorem perform_join {join : Join} (agrees : before.WellScoped)
    (offered : before.offers .join = true) (made : (before.join join).outcome = .ok after) :
    after.WellScoped := by
  obtain ⟨nonBlank, known, each, separate, rfl⟩ := outcome_join_eq_ok_iff.mp made
  have onTwins : before.origin.collection = .digitalTwins := by
    simp only [offers, Bool.and_eq_true, beq_iff_eq] at offered
    exact offered.2
  have aliases_eq : before.scope.aliases ++ join.introduced =
      before.root :: (before.joins ++ [join]).flatMap Join.introduced := by
    simp [agrees.aliases_eq]
  have distinct : (before.scope.aliases ++ join.introduced).Nodup := by
    refine List.nodup_append.mpr ⟨agrees.distinct, separate, ?_⟩
    rintro old oldMember new newMember rfl
    exact (each _ newMember).2 oldMember
  constructor
  · exact aliases_eq
  · exact agrees.origin_root
  · exact distinct
  · intro name member field
    rcases List.mem_append.mp member with old | new
    · exact agrees.usable name old field
    · exact validateAlias_eq_ok_iff.mpr (each name new).1
  · intro earlier other later division
    have known' : join.source ∈ before.root :: before.joins.flatMap Join.introduced :=
      agrees.aliases_eq ▸ known
    have otherKnown := source_mem_of_append
      (fun _ _ _ division => (agrees.sourced _ _ _ division).1) known' division
    rw [aliases_eq] at distinct
    exact ⟨otherKnown, source_notMem (division ▸ distinct) otherKnown⟩
  · intro other member
    rcases List.mem_append.mp member with old | new
    · exact agrees.related other old
    · obtain rfl : other = join := by simpa using new
      exact nonBlank
  · intro onRelationships
    simp [onTwins] at onRelationships

theorem perform {call : Call} (agrees : before.WellScoped)
    (offered : before.offers call.kind = true) (made : (before.perform call).outcome = .ok after) :
    after.WellScoped := by
  cases call with
  | join join => exact agrees.perform_join offered made
  | filter condition =>
    obtain ⟨-, rfl⟩ := outcome_filter_eq_ok_iff.mp made
    exact agrees.of_same_clauses rfl rfl rfl rfl
  | select entries =>
    obtain ⟨-, rfl⟩ := outcome_select_eq_ok_iff.mp made
    exact agrees.of_same_clauses rfl rfl rfl rfl
  | top limit =>
    cases (outcome_top before limit).symm.trans made
    unfold capped
    split <;> exact agrees.of_same_clauses rfl rfl rfl rfl
  | count =>
    cases (outcome_count before).symm.trans made
    exact agrees.of_same_clauses rfl rfl rfl rfl

end WellScoped

theorem Reachable.wellScoped {query : Query} (reached : query.Reachable) : query.WellScoped := by
  induction reached with
  | start configured made => exact .of_start (configured.isAlias_root _) made
  | startAs _ made =>
    obtain ⟨usable, started⟩ := Builder.outcome_startAs_eq_ok_iff.mp made
    exact .of_start usable started
  | perform _ offered made agrees => exact agrees.perform offered made

/-- The clauses of every query agree with its scope, whatever calls led to it from whatever
builder, and whatever else the steps of a session did. -/
theorem wellScoped_of_reached_or_stored :
    (∀ query : Query, query.Reachable → query.WellScoped) ∧
      ∀ (steps : List Step) (slot : String) (query : Query),
        (Session.new.run steps).query? slot = some query → query.WellScoped :=
  ⟨fun _ reached => reached.wellScoped,
    fun _ slot query stored => (Session.Grown.new.run.reachable slot query stored).wellScoped⟩

/-- A join that brings two aliases, after one that is refused since its second alias is taken. -/
theorem wellScoped_joined :
    let query : Query := ⟨.base, "twin", ⟨.digitalTwins, "twin"⟩, ⟨["twin", "room", "rel"]⟩,
      [⟨"room", "twin", "contains", some "rel"⟩], none, .select ⟨["twin"], none⟩, false⟩
    let steps : List Step := [⟨"q", "q", .start .digitalTwins none⟩,
      ⟨"q", "q", .call (.join ⟨"room", "twin", "contains", some "twin"⟩)⟩,
      ⟨"q", "joined", .call (.join ⟨"room", "twin", "contains", some "rel"⟩)⟩]
    (Session.new.run steps).query? "joined" = some query ∧ query.Reachable ∧ query.WellScoped := by
  intro query steps
  have stored : (Session.new.run steps).query? "joined" = some query := by rfl
  have reached : query.Reachable := Session.Grown.new.run.reachable _ _ stored
  exact ⟨stored, reached, wellScoped_of_reached_or_stored.2 steps "joined" query stored⟩

end Query
end TwinGraph
