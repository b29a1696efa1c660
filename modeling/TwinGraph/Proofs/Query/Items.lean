import TwinGraph.Proofs.Query.Entries
import TwinGraph.Proofs.Query.Shape
import TwinGraph.Text.Separated

/-!
# The items of a projection in the text of a query

A selection is compared to the scope entry by entry, and of each entry the part before its first
point.  Who reads the text finds items and no entries.  Every entry begins with an item in scope,
and what stands behind a separator within an entry is an item at which nobody looked.
-/

namespace TwinGraph

open Text

namespace Query

variable {query : Query}

/-- Whether an item names an alias of the scope before its first point. -/
def Covers (query : Query) (item : List Char) : Prop :=
  firstPart '.' (String.ofList item) ∈ query.scope.aliases

instance (query : Query) : DecidablePred query.Covers :=
  fun _ => inferInstanceAs (Decidable (_ ∈ query.scope.aliases))

/-- The list that the text of a query shows, between its first word, with the cap if there is one,
and the clause of the origin. -/
def Shows (query : Query) (list : List Char) : Prop :=
  query.render = "SELECT".toList ++
    (renderTop query.projection.top ++ ' ' :: (list ++ ' ' :: query.renderTail))

/-- The items of an entry, of which only the first one counts when the entry is looked at. -/
theorem exists_items_of_entry {entry : String} (usable : IsAlias (firstPart '.' entry)) :
    ∃ first later, items entry.toList = first :: later ∧
      firstPart '.' (String.ofList first) = firstPart '.' entry := by
  have commaless : ',' ∉ (firstPart '.' entry).toList := usable.notMem rfl
  have pointless := bne_of_notMem (usable.notMem (rfl : isWordPart '.' = false))
  have parts : (firstPart '.' entry).toList ++ entry.toList.dropWhile (· != '.') =
      entry.toList := by
    rw [toList_firstPart, List.takeWhile_append_dropWhile]
  have head := List.head?_dropWhile_not (· != '.') entry.toList
  -- What follows the alias begins with a point, so no separator stands where they meet.
  have begins : ∃ rest later, items (entry.toList.dropWhile (· != '.')) = rest :: later ∧
      Stops (· != '.') rest := by
    cases more : entry.toList.dropWhile (· != '.') with
    | nil => exact ⟨[], [], rfl, stops_nil⟩
    | cons mark after =>
      obtain ⟨item, later, shape⟩ := List.exists_cons_of_ne_nil (items_ne_nil after)
      rw [more] at head
      obtain rfl : mark = '.' := by simpa using head
      have whole : ¬ [',', ' '] <+: '.' :: after := by simp
      exact ⟨'.' :: item, later, items_cons whole shape, stops_cons.mpr (by simp)⟩
  obtain ⟨rest, later, shape, stops⟩ := begins
  refine ⟨(firstPart '.' entry).toList ++ rest, later, ?_, ?_⟩
  · rw [← parts]
    exact items_word_append commaless shape
  · apply String.toList_inj.mp
    rw [toList_firstPart, String.toList_ofList, takeWhile_append_of_stops pointless stops]

/-- The list that a selection shows is the one that its entries make. -/
theorem shows_iff {selection : Selection} (chosen : query.projection = .select selection)
    {list : List Char} :
    query.Shows list ↔ list = commaSeparated (selection.entries.map String.toList) := by
  have clause : query.projection.render = "SELECT".toList ++ (renderTop query.projection.top ++
      ' ' :: commaSeparated (selection.entries.map String.toList)) := by
    rw [chosen]
    rfl
  rw [Shows, render, clause]
  simp only [List.append_assoc, List.cons_append, List.append_cancel_left_eq, List.cons.injEq,
    true_and, List.append_cancel_right_eq, eq_comm (b := list)]

theorem items_of_shows {selection : Selection} (chosen : query.projection = .select selection)
    (nonempty : selection.entries ≠ []) {list : List Char} (shown : query.Shows list) :
    items list = selection.entries.flatMap (items ·.toList) := by
  have texts : selection.entries.map String.toList ≠ [] := by simpa using nonempty
  rw [(shows_iff chosen).mp shown, items_commaSeparated texts, List.flatMap_map]

/-- Of the items that a selection shows, all are in scope if those are that stand behind a separator
within an entry. -/
theorem covers_items_iff {selection : Selection} {list : List Char}
    (division : items list = selection.entries.flatMap (items ·.toList))
    (begins : ∀ entry ∈ selection.entries, ∃ first later,
      items entry.toList = first :: later ∧ query.Covers first) :
    (∀ item ∈ items list, query.Covers item) ↔
      ∀ entry ∈ selection.entries, ∀ item ∈ (items entry.toList).tail, query.Covers item := by
  rw [division]
  constructor
  · intro covered entry member item behind
    exact covered item (List.mem_flatMap.mpr ⟨entry, member, List.mem_of_mem_tail behind⟩)
  · intro covered item inside
    obtain ⟨entry, member, part⟩ := List.mem_flatMap.mp inside
    obtain ⟨first, later, shape, front⟩ := begins entry member
    have behind := covered entry member item
    rw [shape] at part behind
    rcases List.mem_cons.mp part with rfl | later
    · exact front
    · exact behind later

/-- The list that a selection shows has the items of its entries, one entry after the other, and
each entry begins with an item in scope.  So all items are in scope just if those are that stand
behind a separator within an entry, and in any case if no entry holds a separator. -/
theorem items_of_selection (query : Query) (reached : query.Reachable)
    (selected : query.stage = .selected) :
    ∃ selection, query.projection = .select selection ∧ (∃ list, query.Shows list) ∧
      ∀ list, query.Shows list →
        items list = selection.entries.flatMap (items ·.toList) ∧
        (∀ entry ∈ selection.entries, ∃ first later,
          items entry.toList = first :: later ∧ query.Covers first) ∧
        ((∀ item ∈ items list, query.Covers item) ↔
          ∀ entry ∈ selection.entries, ∀ item ∈ (items entry.toList).tail, query.Covers item) ∧
        ((∀ entry ∈ selection.entries, ¬ [',', ' '] <:+: entry.toList) →
          ∀ item ∈ items list, query.Covers item) := by
  obtain ⟨selection, chosen, nonempty⟩ := reached.shaped.of_selected selected
  have projects := reached.projected selection chosen
  have begins : ∀ entry ∈ selection.entries, ∃ first later,
      items entry.toList = first :: later ∧ query.Covers first := by
    intro entry member
    have inScope := projects.2 entry member
    obtain ⟨first, later, shape, name⟩ :=
      exists_items_of_entry (reached.wellScoped.isAlias inScope)
    refine ⟨first, later, shape, ?_⟩
    rw [Covers, name]
    exact inScope
  refine ⟨selection, chosen, ⟨_, (shows_iff chosen).mpr rfl⟩, fun list shown => ?_⟩
  have division := items_of_shows chosen nonempty shown
  have exactly := covers_items_iff division begins
  refine ⟨division, begins, exactly, fun whole => exactly.mpr fun entry member item behind => ?_⟩
  rw [items_of_whole (whole entry member)] at behind
  cases behind

/-- Entries that end in a comma or hold a space, before a cap that was given first. -/
theorem items_of_capped_selection :
    let query : Query := ⟨.selected, "twin", ⟨.digitalTwins, "twin"⟩, ⟨["twin"]⟩, [], none,
      .select ⟨["twin.a,", "twin.b FROM c"], some 3⟩, false⟩
    let list := "twin.a,, twin.b FROM c".toList
    query.Reachable ∧ query.stage = .selected ∧ query.Shows list ∧
      items list = ["twin.a,".toList, "twin.b FROM c".toList] ∧
      ∀ item ∈ items list, query.Covers item := by
  intro query list
  have begun : Query.Reachable ⟨.base, "twin", ⟨.digitalTwins, "twin"⟩, ⟨["twin"]⟩, [], none,
      .select ⟨["twin"], none⟩, false⟩ := @Reachable.start .new .digitalTwins _ .new rfl
  have reached : query.Reachable := begun.run
    (by rfl : Query.run _ [.top 3, .select ["twin.a,", "twin.b FROM c"]] = .ok query)
  obtain ⟨selection, chosen, -, told⟩ := items_of_selection query reached rfl
  obtain rfl : ⟨["twin.a,", "twin.b FROM c"], some 3⟩ = selection := Projection.select.inj chosen
  have shown : query.Shows list := (shows_iff chosen).mpr (by decide +kernel)
  obtain ⟨division, -, -, covered⟩ := told list shown
  exact ⟨reached, rfl, shown, division.trans (by decide +kernel), covered (by decide +kernel)⟩

/-- An entry that holds a separator brings an item which no clause introduced. -/
theorem not_covers_all_items :
    ¬ ∀ query : Query, query.Reachable → query.stage = .selected →
      ∀ list, query.Shows list → ∀ item ∈ items list, query.Covers item := by
  intro covered
  let base : Query := ⟨.base, "twin", ⟨.digitalTwins, "twin"⟩, ⟨["twin"]⟩, [], none,
    .select ⟨["twin"], none⟩, false⟩
  let query : Query := { base with
    stage := .selected, projection := .select ⟨["twin.name, secret"], none⟩ }
  have begun : base.Reachable := @Reachable.start .new .digitalTwins base .new rfl
  have reached : query.Reachable :=
    begun.run (by rfl : base.run [.select ["twin.name, secret"]] = .ok query)
  have shown : query.Shows "twin.name, secret".toList := (shows_iff rfl).mpr (by decide +kernel)
  have inside : "secret".toList ∈ items "twin.name, secret".toList := by decide +kernel
  have outside : ¬ query.Covers "secret".toList := by decide +kernel
  exact outside (covered query reached rfl _ shown _ inside)

end Query
end TwinGraph
