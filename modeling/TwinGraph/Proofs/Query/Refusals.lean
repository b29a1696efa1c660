import TwinGraph.Proofs.Query.Demands

/-!
# Which name a refused call tells

A check of several names ends with the first one that is not in scope, and tells this name together
with the scope.  A selection tells the part of an entry that was looked for.
-/

namespace TwinGraph

open Demand

/-- Of names that have to be in scope the first one that is not is told, wherever it comes from. -/
theorem Scope.refuses_known_iff {α : Type} {scope : Scope} {name? : α → Option String}
    {items : List α} {error : QueryError} :
    Refuses ((items.filterMap name?).map (known scope)) error ↔
      ∃ earlier item later name, items = earlier ++ item :: later ∧
        (∀ other ∈ earlier.filterMap name?, other ∈ scope.aliases) ∧
        (name? item = some name ∧ name ∉ scope.aliases) ∧
        error = .unknownAlias name scope.aliases := by
  constructor
  · rintro ⟨earlier, demand, later, division, passed, failed, rfl⟩
    obtain ⟨known, rest, names, rfl, mapped⟩ := List.map_eq_append_iff.mp division
    obtain ⟨name, more, rfl, rfl, -⟩ := List.map_eq_cons_iff.mp mapped
    obtain ⟨before, after, rfl, rfl, named⟩ := List.filterMap_eq_append_iff.mp names
    obtain ⟨unnamed, item, later, rfl, silent, named, -⟩ := List.filterMap_eq_cons_iff.mp named
    refine ⟨before ++ unnamed, item, later, name, by simp, ?_, ⟨named, ?_⟩, rfl⟩
    · rw [List.filterMap_append, List.filterMap_eq_nil_iff.mpr silent, List.append_nil]
      exact fun other member => contains_iff.mp (passed _ (List.mem_map_of_mem member))
    · exact fun member => Bool.eq_false_iff.mp failed (contains_iff.mpr member)
  · rintro ⟨earlier, item, later, name, rfl, inside, ⟨named, outside⟩, rfl⟩
    refine ⟨(earlier.filterMap name?).map (known scope), known scope name,
      (later.filterMap name?).map (known scope), by simp [named], ?_, ?_, rfl⟩
    · rintro _ mapped
      obtain ⟨other, member, rfl⟩ := List.mem_map.mp mapped
      exact contains_iff.mpr (inside other member)
    · exact Bool.eq_false_iff.mpr fun contained => outside (contains_iff.mp contained)

namespace Query

variable {query : Query} {entries : List String} {entry : String}

/-- The first of some entries that does not begin with an alias of the scope. -/
def outsider? (query : Query) (entries : List String) : Option String :=
  entries.find? fun entry => decide (Text.firstPart '.' entry ∉ query.scope.aliases)

theorem exists_outsider (member : entry ∈ entries)
    (outside : Text.firstPart '.' entry ∉ query.scope.aliases) :
    ∃ first, query.outsider? entries = some first := by
  have some_found : (query.outsider? entries).isSome = true :=
    List.find?_isSome.mpr ⟨entry, member, by simpa using outside⟩
  exact Option.isSome_iff_exists.mp some_found

theorem outsider?_eq_some_iff :
    query.outsider? entries = some entry ↔ Text.firstPart '.' entry ∉ query.scope.aliases ∧
      ∃ earlier later, entries = earlier ++ entry :: later ∧
        ∀ other ∈ earlier, Text.firstPart '.' other ∈ query.scope.aliases := by
  simp [outsider?, List.find?_eq_some_iff_append]

/-- What is told of an entry that does not begin with an alias of the scope. -/
def outsiderError (query : Query) (entry : String) : QueryError :=
  .unknownAlias (Text.firstPart '.' entry) query.scope.aliases

/-- A selection is refused for the first entry outside of the scope, both before and after a cap. -/
theorem refuses_of_outsider
    (outsider : query.outsider? (query.chosen entries).entries = some entry) :
    Refuses (query.demands (.select entries)) (query.outsiderError entry) := by
  obtain ⟨outside, earlier, later, division, known⟩ := outsider?_eq_some_iff.mp outsider
  have nonempty : (!(query.chosen entries).entries.isEmpty) = true := by
    simp [division]
  have parts (some_entries : List String) : some_entries.map (Text.firstPart '.') =
      some_entries.filterMap (some ∘ Text.firstPart '.') := by
    rw [List.filterMap_eq_map]
  have inside : ∀ name ∈ earlier.filterMap (some ∘ Text.firstPart '.'),
      name ∈ query.scope.aliases := by
    rw [← parts]
    rintro _ mapped
    obtain ⟨other, member, rfl⟩ := List.mem_map.mp mapped
    exact known other member
  refine refuses_cons.mpr (.inr ⟨nonempty, ?_⟩)
  rw [parts]
  exact Scope.refuses_known_iff.mpr
    ⟨earlier, entry, later, _, division, inside, ⟨rfl, outside⟩, rfl⟩

theorem attempt_select_of_outsider (offered : query.offers .select = true)
    (outsider : query.outsider? (query.chosen entries).entries = some entry) :
    query.attempt (.select entries) = .error (.refused (query.outsiderError entry)) :=
  (attempt_eq_error_iff offered).mpr ⟨_, rfl, refuses_of_outsider outsider⟩

end Query
end TwinGraph
