import TwinGraph.Proofs.Vocabulary
import TwinGraph.Proofs.Query.Scope

/-!
# The entries of a projection

What a query projects is looked at when it is chosen and never again.  Since no call takes an alias
out of the scope, every entry begins with an alias of the scope at any later time too.
-/

namespace TwinGraph

namespace Query

/-- Whether what a query projects is in its scope. -/
def Projected (query : Query) : Prop :=
  ∀ selection, query.projection = .select selection → query.Projects selection.entries

variable {before after : Query}

theorem Projects.of_subset {entries : List String} (projects : before.Projects entries)
    (more : before.scope.aliases ⊆ after.scope.aliases) : after.Projects entries :=
  ⟨projects.1, fun entry member => more (projects.2 entry member)⟩

theorem WellScoped.projects_root {query : Query} (agrees : query.WellScoped) :
    query.Projects [query.root] := by
  refine ⟨List.cons_ne_nil _ _, fun entry member => ?_⟩
  obtain rfl : entry = query.root := by simpa using member
  rw [Text.firstPart_of_isWord agrees.isAlias_root.1]
  exact agrees.root_mem_aliases

namespace Projected

/-- A call that leaves the projection alone may bring aliases. -/
theorem of_same_projection (projected : before.Projected)
    (projection : after.projection = before.projection)
    (more : before.scope.aliases ⊆ after.scope.aliases) : after.Projected :=
  fun selection chosen => (projected selection (projection ▸ chosen)).of_subset more

theorem of_start {collection : Collection} {root : String} {logRendered : Bool}
    (usable : IsAlias root)
    (made : (Query.start collection root logRendered).outcome = .ok after) : after.Projected := by
  have agrees : after.WellScoped := .of_start usable made
  cases made
  intro selection chosen
  cases chosen
  exact agrees.projects_root

theorem capped (projected : before.Projected) (agrees : before.WellScoped) (limit : UInt16) :
    (before.capped limit).Projected := by
  unfold Query.capped
  split
  · intro selection chosen
    cases earlier : before.projection with
    | select entries =>
      simp only [earlier, recap] at chosen
      cases chosen
      exact projected entries earlier
    | count => simp [earlier, recap] at chosen
  · intro selection chosen
    cases chosen
    exact agrees.projects_root

theorem perform {call : Call} (projected : before.Projected) (agrees : before.WellScoped)
    (made : (before.perform call).outcome = .ok after) : after.Projected := by
  cases call with
  | join join =>
    obtain ⟨-, -, -, -, rfl⟩ := outcome_join_eq_ok_iff.mp made
    exact projected.of_same_projection rfl (List.subset_append_left _ _)
  | filter condition =>
    obtain ⟨-, rfl⟩ := outcome_filter_eq_ok_iff.mp made
    exact projected.of_same_projection rfl (List.Subset.refl _)
  | select entries =>
    obtain ⟨projects, rfl⟩ := outcome_select_eq_ok_iff.mp made
    intro selection chosen
    cases chosen
    exact projects
  | top limit =>
    cases (outcome_top before limit).symm.trans made
    exact projected.capped agrees limit
  | count =>
    cases (outcome_count before).symm.trans made
    intro selection chosen
    cases chosen

end Projected

theorem Reachable.projected {query : Query} (reached : query.Reachable) : query.Projected := by
  induction reached with
  | start configured made => exact .of_start (configured.isAlias_root _) made
  | startAs _ made =>
    obtain ⟨usable, started⟩ := Builder.outcome_startAs_eq_ok_iff.mp made
    exact .of_start usable started
  | perform earlier _ made projected => exact projected.perform earlier.wellScoped made

end Query
end TwinGraph
