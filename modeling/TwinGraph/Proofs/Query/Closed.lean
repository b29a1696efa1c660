import TwinGraph.Proofs.Query.Entries
import TwinGraph.Proofs.Query.Shape
import TwinGraph.Proofs.Session.Answers

/-!
# Queries that refer to their scope only

The condition and the entries of a query are compared to its scope when they are given and never
again.  Since a scope only grows, and no longer once a condition stands, whatever a query refers to
is an alias that it introduced, at any later time and whatever other queries grow beside it.
-/

namespace TwinGraph

namespace Text

theorem isBlank_firstPart {text : String} (blank : isBlank text = true) (separator : Char) :
    isBlank (firstPart separator text) = true := by
  rw [isBlank_iff] at blank ⊢
  intro character member
  rw [toList_firstPart] at member
  exact blank character (List.takeWhile_subset _ member)

end Text

namespace Query

variable {query before after : Query} {call : Call}

/-- A blank text names nothing in a scope, since every alias is a word. -/
theorem WellScoped.notMem_of_isBlank (agrees : query.WellScoped) {entry : String}
    (blank : Text.isBlank entry = true) :
    Text.firstPart '.' entry ∉ query.scope.aliases := by
  intro member
  have word : Text.isWord (Text.firstPart '.' entry) = true := (agrees.isAlias member).1
  have blankPart := Text.isBlank_firstPart blank '.'
  rw [Text.isBlank_of_isWord word] at blankPart
  cases blankPart

/-- What can be projected as it is holds no blank entry. -/
theorem Projects.nonBlank {entries : List String} (projects : query.Projects entries)
    (agrees : query.WellScoped) : ∀ entry ∈ entries, Text.isBlank entry = false := by
  intro entry member
  refine Bool.eq_false_iff.mpr fun blank => ?_
  exact agrees.notMem_of_isBlank blank (projects.2 entry member)

/-- Whether the condition of a query refers to aliases of its scope only. -/
def Grounded (query : Query) : Prop :=
  ∀ condition, query.condition = some condition →
    ∀ name ∈ condition.aliases, name ∈ query.scope.aliases

namespace Grounded

/-- A call that leaves the condition alone may bring aliases. -/
theorem of_same_condition (grounded : before.Grounded)
    (condition : after.condition = before.condition)
    (more : before.scope.aliases ⊆ after.scope.aliases) : after.Grounded :=
  fun attached present name referred => more (grounded attached (condition ▸ present) name referred)

theorem extended (grounded : before.Grounded) (admitted : before.Admits call) :
    (before.extended call).Grounded := by
  cases completes : call.kind.completes with
  | true =>
    rw [before.extended_eq_of_completes completes]
    exact grounded.of_same_condition rfl (List.Subset.refl _)
  | false =>
    cases call with
    | join join => exact grounded.of_same_condition rfl (List.subset_append_left _ _)
    | filter condition =>
      intro attached present
      cases present
      exact admitted
    | _ => cases completes

end Grounded

theorem Reachable.grounded (reached : query.Reachable) : query.Grounded := by
  induction reached with
  | start configured made =>
    cases made
    exact nofun
  | startAs configured made =>
    obtain ⟨-, started⟩ := Builder.outcome_startAs_eq_ok_iff.mp made
    cases started
    exact nofun
  | perform _ _ made grounded =>
    obtain ⟨admitted, rfl⟩ := outcome_perform_eq_ok_iff.mp made
    exact grounded.extended admitted

/-- What a query refers to is in its scope. -/
structure Closed (query : Query) : Prop where
  /-- The condition refers to aliases of the scope. -/
  condition : ∀ condition, query.condition = some condition →
    ∀ name ∈ condition.aliases, name ∈ query.scope.aliases
  /-- A selection is not empty. -/
  nonempty : ∀ selection, query.projection = .select selection → selection.entries ≠ []
  /-- Each of its entries begins with an alias of the scope, and so none is blank. -/
  entries : ∀ selection, query.projection = .select selection → ∀ entry ∈ selection.entries,
    Text.firstPart '.' entry ∈ query.scope.aliases ∧ Text.isBlank entry = false

theorem Reachable.closed (reached : query.Reachable) : query.Closed where
  condition := reached.grounded
  nonempty selection chosen := (reached.projected selection chosen).1
  entries := by
    intro selection chosen entry member
    have projects := reached.projected selection chosen
    exact ⟨projects.2 entry member, projects.nonBlank reached.wellScoped entry member⟩

/-- Every query refers to its scope only, however it was derived, and stays as it is whatever is
called on it or beside it. -/
theorem closed_for_good :
    (∀ query : Query, query.Reachable →
      query.Closed ∧ ∀ calls later, query.run calls = .ok later → later.Closed) ∧
    ∀ (earlier later : List Step) (slot : String) (query : Query),
      (Session.new.run earlier).query? slot = some query →
        query.Closed ∧
        ((∀ step ∈ later, step.target ≠ slot) →
          (Session.new.run (earlier ++ later)).query? slot = some query) ∧
        ∀ other held, (Session.new.run (earlier ++ later)).query? other = some held →
          held.Closed := by
  have ofSlot (steps : List Step) (slot : String) (query : Query)
      (stored : (Session.new.run steps).query? slot = some query) : query.Closed :=
    (Session.Grown.new.run.reachable slot query stored).closed
  refine ⟨fun query reached => ⟨reached.closed, fun calls later made => ?_⟩,
    fun earlier later slot query stored => ⟨ofSlot earlier slot query stored, ?_, ?_⟩⟩
  · exact (reached.run made).closed
  · intro elsewhere
    rw [Session.run_append, Session.query?_run_of_ne elsewhere, stored]
  · exact ofSlot (earlier ++ later)

/-- A query with a condition and a selection, and calls on those from which it grew: another join,
and a selection that is refused. -/
theorem closed_beside_siblings :
    let condition := Condition.membership "room" "floor" .among ["1"]
    let query : Query := ⟨.selected, "twin", ⟨.digitalTwins, "twin"⟩, ⟨["twin", "room"]⟩,
      [⟨"room", "twin", "contains", none⟩], some condition, .select ⟨["room.name"], none⟩, false⟩
    let earlier : List Step := [⟨"q", "q", .start .digitalTwins none⟩,
      ⟨"q", "joined", .call (.join ⟨"room", "twin", "contains", none⟩)⟩,
      ⟨"joined", "filtered", .filter (.ok condition)⟩,
      ⟨"filtered", "selected", .call (.select ["", "room.name"])⟩]
    let later : List Step := [
      ⟨"joined", "joined", .call (.join ⟨"desk", "room", "contains", none⟩)⟩,
      ⟨"filtered", "other", .call (.select ["desk"])⟩, ⟨"selected", "capped", .call (.top 3)⟩]
    (Session.new.run earlier).query? "selected" = some query ∧
      (∀ step ∈ later, step.target ≠ "selected") ∧ query.Reachable ∧ query.Closed ∧
      (Session.new.run (earlier ++ later)).query? "selected" = some query ∧
      ∃ held, (Session.new.run (earlier ++ later)).query? "capped" = some held ∧ held.Closed := by
  intro condition query earlier later
  have stored : (Session.new.run earlier).query? "selected" = some query := by rfl
  have elsewhere : ∀ step ∈ later, step.target ≠ "selected" := by
    simp [later]
  have reached : query.Reachable := Session.Grown.new.run.reachable _ _ stored
  obtain ⟨ofReached, ofStored⟩ := closed_for_good
  obtain ⟨-, kept, others⟩ := ofStored earlier later "selected" query stored
  have capped : (Session.new.run (earlier ++ later)).query? "capped" =
      some { query with projection := .select ⟨["room.name"], some 3⟩ } := by rfl
  exact ⟨stored, elsewhere, reached, (ofReached query reached).1, kept elsewhere, _, capped,
    others "capped" _ capped⟩

end Query
end TwinGraph
