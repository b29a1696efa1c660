import TwinGraph.Proofs.Condition.Stretches
import TwinGraph.Proofs.Query.Selection

/-!
# Which calls a query takes

For a join, a condition and a selection without a cap: which arguments the call takes, what it
changes then, and how it refuses all others.
-/

namespace TwinGraph

open Demand

namespace Query

variable {query : Query} {call : Call}

/-- The names that a join brings are looked at one by one, and the second one is compared to the
first one too. -/
theorem admits_join_iff {join : Join} :
    query.Admits (.join join) ↔
      Text.isBlank join.relationship = false ∧ join.source ∈ query.scope.aliases ∧
        validateAlias "alias" join.target = .ok () ∧ join.target ∉ query.scope.aliases ∧
        ∀ name ∈ join.relationshipAlias, validateAlias "relationship_alias" name = .ok () ∧
          name ∉ query.scope.aliases ∧ name ≠ join.target := by
  simp only [Admits, Join.introduced, validateAlias_eq_ok_iff]
  cases join.relationshipAlias with
  | none => simp
  | some name => simp [and_assoc, eq_comm (a := name)]

/-- On twins, a query without a condition takes a join exactly if the relationship is named, the
source is in scope, and the aliases are usable, new and different from each other.  The join then is
the last one, and its aliases are the last ones of the scope.  Any other join is refused for the
first demand that it does not meet. -/
theorem join_taken_or_refused (query : Query) (atBase : query.stage = .base)
    (onTwins : query.origin.collection = .digitalTwins) (join : Join) :
    ((∃ after, query.attempt (.join join) = .ok after) ↔
      Text.isBlank join.relationship = false ∧ join.source ∈ query.scope.aliases ∧
        validateAlias "alias" join.target = .ok () ∧ join.target ∉ query.scope.aliases ∧
        ∀ name ∈ join.relationshipAlias, validateAlias "relationship_alias" name = .ok () ∧
          name ∉ query.scope.aliases ∧ name ≠ join.target) ∧
    (∀ after, query.attempt (.join join) = .ok after → after = { query with
      scope := ⟨query.scope.aliases ++ join.target :: join.relationshipAlias.toList⟩
      joins := query.joins ++ [join] }) ∧
    ∀ failure, query.attempt (.join join) = .error failure ↔
      ∃ error, failure = .refused error ∧ Refuses (query.demands (.join join)) error := by
  have offered : query.offers .join = true := by
    simp [offers, atBase, onTwins]
  refine ⟨?_, ?_, fun failure => attempt_eq_error_iff offered⟩
  · rw [← admits_join_iff]
    exact exists_attempt_eq_ok_iff offered
  · intro after made
    exact (attempt_eq_ok_iff.mp made).2.2

/-- A join that is taken, and joins with several things wrong of which the first one is told: an
unknown source that is the new alias itself before an alias that is reserved, and an alias that is
reserved before one that is in scope. -/
theorem join_taken_or_refused_beside_room :
    let query : Query := ⟨.base, "twin", ⟨.digitalTwins, "twin"⟩, ⟨["twin", "room"]⟩,
      [⟨"room", "twin", "contains", none⟩], none, .select ⟨["twin"], none⟩, false⟩
    (query.stage = .base ∧ query.origin.collection = .digitalTwins) ∧
      query.attempt (.join ⟨"desk", "room", "has desk", some "rel"⟩) = .ok { query with
        scope := ⟨["twin", "room", "desk", "rel"]⟩
        joins := [⟨"room", "twin", "contains", none⟩, ⟨"desk", "room", "has desk", some "rel"⟩] } ∧
      query.attempt (.join ⟨"top", "top", "contains", none⟩) =
        .error (.refused (.unknownAlias "top" ["twin", "room"])) ∧
      query.attempt (.join ⟨"top", "room", "contains", some "room"⟩) =
        .error (.refused (.invalidArgument "alias" (.reservedWord "top"))) ∧
      query.attempt (.join ⟨"desk", "room", "contains", some "desk"⟩) =
        .error (.refused (.duplicateAlias "desk")) := by
  intro query
  have exactly := join_taken_or_refused query rfl rfl
  obtain ⟨⟨-, takes⟩, changes, -⟩ := exactly ⟨"desk", "room", "has desk", some "rel"⟩
  have named : ∀ name ∈ some "rel", validateAlias "relationship_alias" name = .ok () ∧
      name ∉ query.scope.aliases ∧ name ≠ "desk" := by
    rintro _ ⟨⟩
    exact ⟨rfl, by decide, by decide⟩
  obtain ⟨after, made⟩ := takes ⟨rfl, by decide, rfl, by decide, named⟩
  refine ⟨⟨rfl, rfl⟩, changes after made ▸ made, ?_, ?_, ?_⟩
  · exact ((exactly _).2.2 _).mpr ⟨_, rfl, [_], _, _, rfl, by decide, rfl, rfl⟩
  · exact ((exactly _).2.2 _).mpr ⟨_, rfl, [_, _], _, _, rfl, by decide, rfl, rfl⟩
  · exact ((exactly _).2.2 _).mpr ⟨_, rfl, [_, _, _, _, _], _, _, rfl, by decide, rfl, rfl⟩

theorem admits_filter_iff {condition : Condition} :
    query.Admits (.filter condition) ↔
      ∀ leaf, .leaf leaf ∈ condition.stretches → leaf.Within query.scope := by
  rw [← Condition.forall_mem_filterMap_alias?_iff, condition.filterMap_alias?_stretches]
  rfl

/-- A condition is refused for the first leaf in its text that is not within the scope. -/
theorem refuses_filter_iff {condition : Condition} {error : QueryError} :
    Refuses (query.demands (.filter condition)) error ↔
      ∃ earlier leaf later name, condition.stretches = earlier ++ .leaf leaf :: later ∧
        (∀ other, .leaf other ∈ earlier → other.Within query.scope) ∧
        (leaf.qualifier? = some name ∧ name ≠ "" ∧ name ∉ query.scope.aliases) ∧
        error = .unknownAlias name query.scope.aliases := by
  have aliases := condition.filterMap_alias?_stretches
  have names := @Scope.refuses_known_iff _ query.scope Stretch.alias? condition.stretches error
  rw [aliases] at names
  refine names.trans ⟨?_, ?_⟩
  · rintro ⟨earlier, stretch, later, name, division, inside, ⟨referred, outside⟩, rfl⟩
    cases stretch with
    | joint text => cases referred
    | leaf leaf =>
      obtain ⟨qualified, nonempty⟩ := Stretch.alias?_leaf_eq_some_iff.mp referred
      exact ⟨earlier, leaf, later, name, division,
        Condition.forall_mem_filterMap_alias?_iff.mp inside, ⟨qualified, nonempty, outside⟩, rfl⟩
  · rintro ⟨earlier, leaf, later, name, division, within, ⟨qualified, nonempty, outside⟩, rfl⟩
    have referred := Stretch.alias?_leaf_eq_some_iff.mpr ⟨qualified, nonempty⟩
    exact ⟨earlier, .leaf leaf, later, name, division,
      Condition.forall_mem_filterMap_alias?_iff.mpr within, ⟨referred, outside⟩, rfl⟩

/-- A query without a condition takes a condition exactly if each of its leaves, under whatever
negations and groups, is within the scope, and gets the condition then and nothing else.  Any other
condition is refused for the first leaf in its text that is not. -/
theorem filter_taken_or_refused (query : Query) (atBase : query.stage = .base)
    (condition : Condition) :
    ((∃ after, query.attempt (.filter condition) = .ok after) ↔
      ∀ leaf, .leaf leaf ∈ condition.stretches → leaf.Within query.scope) ∧
    (∀ after, query.attempt (.filter condition) = .ok after →
      after = { query with condition := some condition, stage := .filtered }) ∧
    (∀ failure, query.attempt (.filter condition) = .error failure ↔
      ∃ earlier leaf later name, condition.stretches = earlier ++ .leaf leaf :: later ∧
        (∀ other, .leaf other ∈ earlier → other.Within query.scope) ∧
        (leaf.qualifier? = some name ∧ name ≠ "" ∧ name ∉ query.scope.aliases) ∧
        failure = .refused (.unknownAlias name query.scope.aliases)) ∧
    condition.text = String.ofList (condition.stretches.flatMap Stretch.render) := by
  have offered : query.offers .filter = true := by
    simp [offers, atBase]
  refine ⟨?_, ?_, fun failure => ?_, ?_⟩
  · rw [← admits_filter_iff]
    exact exists_attempt_eq_ok_iff offered
  · intro after made
    exact (attempt_eq_ok_iff.mp made).2.2
  · rw [attempt_eq_error_iff offered]
    constructor
    · rintro ⟨error, rfl, refuses⟩
      obtain ⟨earlier, leaf, later, name, division, within, outside, rfl⟩ :=
        refuses_filter_iff.mp refuses
      exact ⟨earlier, leaf, later, name, division, within, outside, rfl⟩
    · rintro ⟨earlier, leaf, later, name, division, within, outside, rfl⟩
      exact ⟨_, rfl, refuses_filter_iff.mpr
        ⟨earlier, leaf, later, name, division, within, outside, rfl⟩⟩
  · rw [condition.flatMap_render_stretches, Condition.text]

/-- A condition that is taken, and one in which the first leaf outside of the scope stands under a
negation and a group, before another one that is outside too. -/
theorem filter_taken_or_refused_under_negation :
    let query : Query := ⟨.base, "twin", ⟨.digitalTwins, "twin"⟩, ⟨["twin", "room"]⟩,
      [⟨"room", "twin", "contains", none⟩], none, .select ⟨["twin"], none⟩, false⟩
    let inside := Condition.group .disjunction [.membership "" "tag" .among ["desk.x"],
      .negation (.modelTest (some "room") "m;2")]
    let outside := Condition.group .disjunction [inside, .negation (.group .conjunction [
      .modelTest none "m", .comparison "desk" "floor" .equal (.integer 1),
      .scalarTest "lamp" "on" .isBool none])]
    query.stage = .base ∧
      query.attempt (.filter inside) =
        .ok { query with condition := some inside, stage := .filtered } ∧
      query.attempt (.filter outside) =
        .error (.refused (.unknownAlias "desk" ["twin", "room"])) := by
  intro query inside outside
  obtain ⟨⟨-, takes⟩, changes, -, -⟩ := filter_taken_or_refused query rfl inside
  obtain ⟨-, -, refuses, -⟩ := filter_taken_or_refused query rfl outside
  obtain ⟨after, made⟩ := takes (Condition.forall_mem_filterMap_alias?_iff.mp (by decide))
  refine ⟨rfl, changes after made ▸ made, (refuses _).mpr ?_⟩
  exact ⟨outside.stretches.take 12, _, outside.stretches.drop 13, "desk", rfl,
    Condition.forall_mem_filterMap_alias?_iff.mp (by decide), ⟨rfl, by decide, by decide⟩, rfl⟩

/-- Blank entries are dropped before anything else is looked at, so it does not matter whether they
were given. -/
theorem perform_select_filter (isOpen : query.stage.isOpen = true) (entries : List String) :
    query.perform (.select (entries.filter fun entry => !Text.isBlank entry)) =
      query.perform (.select entries) := by
  have lenient (given : List String) : query.perform (.select given) = query.selectOpen given :=
    if_neg (stage_ne_of_isOpen isOpen).1
  have again : ((entries.filter fun entry => !Text.isBlank entry).filter
      fun entry => !Text.isBlank entry) = entries.filter fun entry => !Text.isBlank entry := by
    simp
  rw [lenient, lenient, selectOpen, selectOpen, again]

/-- Entries that are all blank are refused before anything is looked for in the scope. -/
theorem attempt_select_of_blank {entries : List String} (isOpen : query.stage.isOpen = true)
    (onlyBlank : (query.chosen entries).entries = []) :
    query.attempt (.select entries) =
      .error (.refused (.invalidArgument "aliases" .onlyBlankEntries)) := by
  have unmet : Refuses (query.demands (.select entries))
      (.invalidArgument "aliases" .onlyBlankEntries) := by
    refine refuses_cons.mpr (.inl ⟨?_, ?_⟩)
    · simp [onlyBlank]
    · rw [if_neg (stage_ne_of_isOpen isOpen).1]
  exact (attempt_eq_error_iff (offers_of_isOpen isOpen rfl)).mpr ⟨_, rfl, unmet⟩

/-- A query without a projection takes entries as if the blank ones had not been given.  The others
have to be there, and have to begin with aliases of the scope, each up to its first point.  They are
projected as they are then and without a cap; otherwise the first one that does not is told. -/
theorem select_taken_or_refused (query : Query) (isOpen : query.stage.isOpen = true)
    (entries : List String) :
    let kept := entries.filter fun entry => !Text.isBlank entry
    query.perform (.select entries) = query.perform (.select kept) ∧
    (kept = [] → query.attempt (.select entries) =
      .error (.refused (.invalidArgument "aliases" .onlyBlankEntries))) ∧
    ((∃ entry ∈ kept, Text.firstPart '.' entry ∉ query.scope.aliases) →
      ∃ earlier entry later, kept = earlier ++ entry :: later ∧
        (∀ other ∈ earlier, Text.firstPart '.' other ∈ query.scope.aliases) ∧
        Text.firstPart '.' entry ∉ query.scope.aliases ∧
        query.attempt (.select entries) =
          .error (.refused (.unknownAlias (Text.firstPart '.' entry) query.scope.aliases))) ∧
    (kept ≠ [] → (∀ entry ∈ kept, Text.firstPart '.' entry ∈ query.scope.aliases) →
      query.attempt (.select entries) =
        .ok { query with projection := .select ⟨kept, none⟩, stage := .selected }) := by
  intro kept
  have offered : query.offers .select = true := offers_of_isOpen isOpen rfl
  have chosen : query.chosen entries = ⟨kept, none⟩ := chosen_of_isOpen isOpen entries
  refine ⟨(perform_select_filter isOpen entries).symm, fun onlyBlank => ?_, ?_, ?_⟩
  · exact attempt_select_of_blank isOpen (by rw [chosen, onlyBlank])
  · rintro ⟨entry, member, outside⟩
    obtain ⟨first, outsider⟩ := exists_outsider member outside
    obtain ⟨unknown, earlier, later, division, known⟩ := outsider?_eq_some_iff.mp outsider
    refine ⟨earlier, first, later, division, known, unknown, ?_⟩
    exact attempt_select_of_outsider offered (by rw [chosen]; exact outsider)
  · intro nonempty inside
    have admitted : query.Admits (.select entries) := by
      rw [Admits, chosen]
      exact ⟨nonempty, inside⟩
    refine attempt_eq_ok_iff.mpr ⟨offered, admitted, ?_⟩
    rw [extended, chosen]

/-- Blank entries beside an entry that comes twice, beside one that only looks like an alias, and
alone. -/
theorem select_taken_or_refused_among_blanks :
    let query : Query := ⟨.base, "twin", ⟨.digitalTwins, "twin"⟩, ⟨["twin", "room"]⟩,
      [⟨"room", "twin", "contains", none⟩], none, .select ⟨["twin"], none⟩, false⟩
    query.stage.isOpen = true ∧
      query.attempt (.select ["\u3000", "room.a.b", "", "room.a.b"]) = .ok { query with
        projection := .select ⟨["room.a.b", "room.a.b"], none⟩, stage := .selected } ∧
      query.attempt (.select [" ", " room", "\t"]) =
        .error (.refused (.unknownAlias " room" ["twin", "room"])) ∧
      query.attempt (.select ["", " "]) =
        .error (.refused (.invalidArgument "aliases" .onlyBlankEntries)) := by
  intro query
  have exactly := select_taken_or_refused query rfl
  refine ⟨rfl, ?_, ?_, ?_⟩
  · exact (exactly ["\u3000", "room.a.b", "", "room.a.b"]).2.2.2 (by decide) (by decide)
  · obtain ⟨earlier, entry, later, division, -, -, refused⟩ :=
      (exactly [" ", " room", "\t"]).2.2.1 ⟨" room", by decide, by decide⟩
    have only : [" room"] = earlier ++ entry :: later := division
    rcases List.append_eq_singleton_iff.mp only.symm with ⟨-, single⟩ | ⟨-, single⟩
    · cases single
      exact refused
    · cases single
  · exact (exactly ["", " "]).2.1 (by decide)

end Query
end TwinGraph
