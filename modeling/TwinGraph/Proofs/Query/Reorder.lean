import TwinGraph.Proofs.Query.Run

/-!
# Joins in another order

Of several joins, only what concerns sources hangs on their order: a join goes out from an alias
that is known before it.  The names that joins introduce have to be usable, new and different in
any order.  So joins may be made in every order that has each source before it is needed, and what
they lead to differs in the order of joins and aliases alone.
-/

namespace TwinGraph
namespace Query

variable {query first second : Query} {known : List String} {join : Join}
  {joins rest reordered : List Join}

/-- What joins need in any order, where some aliases are known before them. -/
structure Joinable (known : List String) (joins : List Join) : Prop where
  related : ∀ join ∈ joins, Text.isBlank join.relationship = false
  usable : ∀ name ∈ joins.flatMap Join.introduced, IsAlias name ∧ name ∉ known
  distinct : (joins.flatMap Join.introduced).Nodup

theorem Joinable.perm (joinable : Joinable known joins) (permuted : joins.Perm reordered) :
    Joinable known reordered where
  related join member := joinable.related join (permuted.mem_iff.mpr member)
  usable name member :=
    joinable.usable name ((permuted.flatMap_right Join.introduced).mem_iff.mpr member)
  distinct := (permuted.flatMap_right Join.introduced).nodup_iff.mp joinable.distinct

theorem joinable_cons :
    Joinable known (join :: rest) ↔
      (Text.isBlank join.relationship = false ∧
        (∀ name ∈ join.introduced, IsAlias name ∧ name ∉ known) ∧ join.introduced.Nodup) ∧
      Joinable (known ++ join.introduced) rest := by
  constructor
  · rintro ⟨related, usable, distinct⟩
    rw [List.forall_mem_cons] at related
    rw [List.flatMap_cons, List.forall_mem_append] at usable
    obtain ⟨own, others, apart⟩ := List.nodup_append.mp (List.flatMap_cons ▸ distinct)
    refine ⟨⟨related.1, usable.1, own⟩, related.2, fun name member => ?_, others⟩
    refine ⟨(usable.2 name member).1, fun old => ?_⟩
    rcases List.mem_append.mp old with before | introduced
    · exact (usable.2 name member).2 before
    · exact apart name introduced name member rfl
  · rintro ⟨⟨related, usable, own⟩, others⟩
    refine ⟨List.forall_mem_cons.mpr ⟨related, others.related⟩, ?_, ?_⟩
    · rw [List.flatMap_cons, List.forall_mem_append]
      refine ⟨usable, fun name member => ⟨(others.usable name member).1, fun before => ?_⟩⟩
      exact (others.usable name member).2 (List.mem_append_left _ before)
    · rw [List.flatMap_cons]
      refine List.nodup_append.mpr ⟨own, others.distinct, ?_⟩
      rintro name introduced _ member rfl
      exact (others.usable name member).2 (List.mem_append_right _ introduced)

/-- Whether each join goes out from an alias that is known or that an earlier join introduces. -/
def Sourced (known : List String) : List Join → Prop
  | [] => True
  | join :: rest => join.source ∈ known ∧ Sourced (known ++ join.introduced) rest

theorem sourced_iff :
    Sourced known joins ↔ ∀ earlier join later, joins = earlier ++ join :: later →
      join.source ∈ known ++ earlier.flatMap Join.introduced := by
  induction joins generalizing known with
  | nil => simp [Sourced]
  | cons join rest induction =>
    rw [Sourced, induction]
    constructor
    · rintro ⟨source, others⟩ (_ | ⟨other, earlier⟩) last later division
      · cases division
        simpa using source
      · cases division
        simpa using others earlier last later rfl
    · intro each
      refine ⟨by simpa using each [] join rest rfl, ?_⟩
      rintro earlier last later rfl
      simpa using each (join :: earlier) last later rfl

/-- The query with further joins. -/
def joined (query : Query) (joins : List Join) : Query := { query with
  scope := ⟨query.scope.aliases ++ joins.flatMap Join.introduced⟩
  joins := query.joins ++ joins }

theorem run_joins_eq_ok_iff :
    query.run (joins.map .join) = .ok first ↔
      (joins ≠ [] → query.offers .join = true) ∧ Joinable query.scope.aliases joins ∧
        Sourced query.scope.aliases joins ∧ first = query.joined joins := by
  induction joins generalizing query with
  | nil =>
    have nothing : Joinable query.scope.aliases [] := ⟨by simp, by simp, by simp⟩
    simp [nothing, Sourced, joined, eq_comm (a := first)]
  | cons join rest induction =>
    -- What the first join introduces is known to the others, and no join changes what is offered.
    have offers : (query.extended (.join join)).offers .join = query.offers .join := rfl
    have joined : (query.extended (.join join)).joined rest = query.joined (join :: rest) := by
      simp [extended, Query.joined]
    have aliases : (query.extended (.join join)).scope.aliases =
        query.scope.aliases ++ join.introduced := rfl
    rw [List.map_cons, run_cons_eq_ok_iff, induction, offers, joined, aliases, joinable_cons,
      Sourced]
    simp only [Call.kind, Admits]
    constructor
    · rintro ⟨offered, ⟨related, source, usable, distinct⟩, -, joinable, sourced, made⟩
      exact ⟨fun _ => offered, ⟨⟨related, usable, distinct⟩, joinable⟩, ⟨source, sourced⟩, made⟩
    · rintro ⟨offered, ⟨⟨related, usable, distinct⟩, joinable⟩, ⟨source, sourced⟩, made⟩
      have offered := offered (List.cons_ne_nil _ _)
      exact ⟨offered, ⟨related, source, usable, distinct⟩, fun _ => offered, joinable, sourced,
        made⟩

/-- Whether two queries differ in the order of joins and aliases alone. -/
structure Reordered (first second : Query) : Prop where
  stage : first.stage = second.stage
  root : first.root = second.root
  origin : first.origin = second.origin
  scope : first.scope.aliases.Perm second.scope.aliases
  joins : first.joins.Perm second.joins
  condition : first.condition = second.condition
  projection : first.projection = second.projection

theorem reordered_joined (query : Query) (permuted : joins.Perm reordered) :
    Reordered (query.joined joins) (query.joined reordered) where
  stage := rfl
  root := rfl
  origin := rfl
  scope := (permuted.flatMap_right Join.introduced).append_left _
  joins := permuted.append_left _
  condition := rfl
  projection := rfl

namespace Reordered

theorem mem_iff (reordered : Reordered first second) {name : String} :
    name ∈ first.scope.aliases ↔ name ∈ second.scope.aliases :=
  reordered.scope.mem_iff

theorem sameAliases (reordered : Reordered first second) :
    first.scope.sameAliases second.scope = true := by
  simp only [Scope.sameAliases, Scope.size, reordered.scope.length_eq, beq_self_eq_true,
    Bool.true_and, List.all_eq_true, Scope.contains_iff]
  exact fun name member => reordered.mem_iff.mp member

theorem offers_eq (reordered : Reordered first second) (kind : CallKind) :
    first.offers kind = second.offers kind := by
  cases kind <;> simp only [offers, reordered.stage, reordered.origin]

theorem chosen_eq (reordered : Reordered first second) (entries : List String) :
    first.chosen entries = second.chosen entries := by
  simp only [chosen, reordered.stage, reordered.projection]

theorem exists_attempt_filter (reordered : Reordered first second) (condition : Condition) :
    (∃ next, first.attempt (.filter condition) = .ok next) ↔
      ∃ next, second.attempt (.filter condition) = .ok next := by
  simp only [attempt_eq_ok_iff, Admits, reordered.offers_eq, reordered.mem_iff,
    exists_and_left, exists_eq, and_true]

theorem exists_attempt_select (reordered : Reordered first second) (entries : List String) :
    (∃ next, first.attempt (.select entries) = .ok next) ↔
      ∃ next, second.attempt (.select entries) = .ok next := by
  simp only [attempt_eq_ok_iff, Admits, Projects, reordered.offers_eq, reordered.chosen_eq,
    reordered.mem_iff, exists_and_left, exists_eq, and_true]

end Reordered

/-- Joins that are accepted one after the other are accepted in another order if and only if each
source is known or introduced earlier in that order.  The queries that the two orders lead to begin
alike, have the same aliases and the joins in the two orders, and take the same conditions and the
same selections. -/
theorem joins_in_any_order (query first : Query) (joins reordered : List Join)
    (accepted : query.run (joins.map .join) = .ok first) (permuted : joins.Perm reordered) :
    ((∃ second, query.run (reordered.map .join) = .ok second) ↔
      ∀ earlier join later, reordered = earlier ++ join :: later →
        join.source ∈ query.scope.aliases ++ earlier.flatMap Join.introduced) ∧
    ∀ second, query.run (reordered.map .join) = .ok second →
      first.root = second.root ∧ first.origin = second.origin ∧
      (∀ name, name ∈ first.scope.aliases ↔ name ∈ second.scope.aliases) ∧
      first.scope.sameAliases second.scope = true ∧
      first.joins = query.joins ++ joins ∧ second.joins = query.joins ++ reordered ∧
      (∀ condition, (∃ next, first.attempt (.filter condition) = .ok next) ↔
        ∃ next, second.attempt (.filter condition) = .ok next) ∧
      ∀ entries, (∃ next, first.attempt (.select entries) = .ok next) ↔
        ∃ next, second.attempt (.select entries) = .ok next := by
  obtain ⟨offered, joinable, -, rfl⟩ := run_joins_eq_ok_iff.mp accepted
  refine ⟨⟨?_, ?_⟩, ?_⟩
  · rintro ⟨second, made⟩
    obtain ⟨-, -, sourced, -⟩ := run_joins_eq_ok_iff.mp made
    exact sourced_iff.mp sourced
  · intro sourced
    have nonempty : reordered ≠ [] → joins ≠ [] := by
      rintro some_joins rfl
      exact some_joins permuted.nil_eq.symm
    exact ⟨_, run_joins_eq_ok_iff.mpr ⟨fun some_joins => offered (nonempty some_joins),
      joinable.perm permuted, sourced_iff.mpr sourced, rfl⟩⟩
  · intro second made
    obtain ⟨-, -, -, rfl⟩ := run_joins_eq_ok_iff.mp made
    have alike := reordered_joined query permuted
    exact ⟨rfl, rfl, fun _ => alike.mem_iff, alike.sameAliases, rfl, rfl,
      alike.exists_attempt_filter, alike.exists_attempt_select⟩

/-- Three joins in two orders, and in a third one that has a join before the one that introduces
its source. -/
theorem joins_in_any_order_of_twin :
    let query : Query := ⟨.base, "twin", ⟨.digitalTwins, "twin"⟩, ⟨["twin"]⟩, [], none,
      .select ⟨["twin"], none⟩, false⟩
    let room : Join := ⟨"room", "twin", "contains", none⟩
    let desk : Join := ⟨"desk", "room", "holds", some "link"⟩
    let hall : Join := ⟨"hall", "twin", "contains", none⟩
    let first := query.joined [room, desk, hall]
    query.Reachable ∧ query.run [.join room, .join desk, .join hall] = .ok first ∧
      [room, desk, hall].Perm [hall, room, desk] ∧ [room, desk, hall].Perm [desk, room, hall] ∧
      (∃ second, query.run [.join hall, .join room, .join desk] = .ok second ∧
        second.joins = [hall, room, desk] ∧ first.scope.sameAliases second.scope = true) ∧
      ¬∃ second, query.run [.join desk, .join room, .join hall] = .ok second := by
  intro query room desk hall first
  have reached : query.Reachable := @Reachable.start .new .digitalTwins query .new rfl
  have joinable : Joinable query.scope.aliases [room, desk, hall] :=
    ⟨by decide +kernel, by decide +kernel, by decide +kernel⟩
  have sourced : Sourced query.scope.aliases [room, desk, hall] := by
    simp [Sourced, query, room, desk, hall, Join.introduced]
  have sourced' : Sourced query.scope.aliases [hall, room, desk] := by
    simp [Sourced, query, room, desk, hall, Join.introduced]
  have accepted : query.run [.join room, .join desk, .join hall] = .ok first :=
    run_joins_eq_ok_iff.mpr ⟨fun _ => rfl, joinable, sourced, rfl⟩
  have permuted : [room, desk, hall].Perm [hall, room, desk] := by decide +kernel
  have swapped : [room, desk, hall].Perm [desk, room, hall] := by decide +kernel
  obtain ⟨accepts, agree⟩ := joins_in_any_order query first [room, desk, hall] [hall, room, desk]
    accepted permuted
  obtain ⟨accepts', -⟩ := joins_in_any_order query first [room, desk, hall] [desk, room, hall]
    accepted swapped
  obtain ⟨second, made⟩ := accepts.mpr (sourced_iff.mp sourced')
  obtain ⟨-, -, -, same, -, joins, -⟩ := agree second made
  refine ⟨reached, accepted, permuted, swapped, ⟨second, made, joins, same⟩, fun made => ?_⟩
  have source := accepts'.mp made [] desk [room, hall] rfl
  simp [query, desk] at source

end Query
end TwinGraph
