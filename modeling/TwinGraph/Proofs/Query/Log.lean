import TwinGraph.Proofs.Query.Calls
import TwinGraph.Proofs.Traced
import TwinGraph.Proofs.UnknownAlias

/-!
# What calls on a query record

A call records one event at most.  If it is refused, that is the alias outside of the scope that
the refusal names; if it succeeds, it is what the call has done.  Nothing is recorded before the
last check of a call has passed.
-/

namespace TwinGraph

/-- What is recorded of an error in a scope: the alias that is not in scope, and nothing of any
other error. -/
inductive Scope.Refusal (scope : Scope) : QueryError → List Event → Prop where
  | unknown {name : String} (absent : name ∉ scope.aliases) :
    scope.Refusal (.unknownAlias name scope.aliases) [.rejected name scope.aliases]
  | other {error : QueryError} (other : error.isUnknownAlias = false) : scope.Refusal error []

namespace Scope

theorem ends_require (scope : Scope) (name : String) :
    (scope.require name).Ends scope.Refusal fun _ events => events = [] := by
  by_cases member : name ∈ scope.aliases
  · rw [require_of_mem member]
    exact (rfl : ([] : List Event) = [])
  · rw [require_of_notMem member]
    exact .unknown member

theorem ends_requireAll (scope : Scope) (names : List String) :
    (scope.requireAll names).Ends scope.Refusal fun _ events => events = [] := by
  induction names with
  | nil => exact (rfl : ([] : List Event) = [])
  | cons name rest induction => exact (scope.ends_require name).bind fun _ _ => induction

end Scope

namespace Query

variable (query : Query)

theorem ends_silent {α : Type} {outcome : Except QueryError α}
    (other : ∀ error, outcome = .error error → error.isUnknownAlias = false) :
    (Traced.silent outcome).Ends query.scope.Refusal fun _ events => events = [] :=
  Traced.ends_silent (fun error failed => .other (other error failed)) fun _ _ => rfl

theorem ends_join (join : Join) :
    (query.join join).Ends query.scope.Refusal fun _ events =>
      events = [.joined join.target join.source join.relationship] := by
  unfold Query.join
  refine (query.ends_silent fun _ => isUnknownAlias_of_requireNonBlank).bind fun _ _ => ?_
  refine (query.scope.ends_require join.source).bind fun _ _ => ?_
  refine (query.ends_silent fun _ => Scope.isUnknownAlias_of_introduce).bind fun scope _ => ?_
  refine (query.ends_silent fun _ => Scope.isUnknownAlias_of_introduceOptional).bind fun _ _ => ?_
  exact (rfl : [Event.joined join.target join.source join.relationship] = _)

/-- Whether a call records the passage to another stage if it succeeds. -/
def Advances (call : Traced QueryError Query) : Prop :=
  call.Ends query.scope.Refusal fun after events =>
    events = [.advanced query.stage after.stage]

theorem ends_filter (condition : Condition) : query.Advances (query.filter condition) :=
  (query.scope.ends_requireAll condition.aliases).bind fun _ _ =>
    (rfl : [Event.advanced query.stage .filtered] = _)

theorem advances_of_checked (entries : List String) (projection : Projection) :
    query.Advances (query.checkEntries entries >>= fun _ =>
      advance { query with projection := projection } .selected) :=
  (query.scope.ends_requireAll _).bind fun _ _ =>
    (rfl : [Event.advanced query.stage .selected] = _)

theorem ends_selectOpen (entries : List String) : query.Advances (query.selectOpen entries) := by
  unfold selectOpen
  dsimp only
  split
  · exact .other rfl
  · exact query.advances_of_checked _ _

theorem ends_selectTopped (entries : List String) :
    query.Advances (query.selectTopped entries) := by
  unfold selectTopped
  split
  · exact .other rfl
  · exact query.advances_of_checked _ _

theorem ends_select (entries : List String) : query.Advances (query.select entries) := by
  unfold select
  split
  · exact query.ends_selectTopped entries
  · exact query.ends_selectOpen entries

/-- What a call records that leads to a query.  A cap on what is selected or capped is no step to
another stage. -/
def record (after : Query) : Call → List Event
  | .join join => [.joined join.target join.source join.relationship]
  | .top _ =>
    if query.stage = .selected ∨ query.stage = .topped then []
    else [.advanced query.stage after.stage]
  | _ => [.advanced query.stage after.stage]

theorem record_of_advances {before after : Query} {call : Call} (joins : call.kind ≠ .join)
    (recaps : call.kind = .top → before.stage ≠ .selected ∧ before.stage ≠ .topped) :
    before.record after call = [.advanced before.stage after.stage] := by
  cases call with
  | join join => exact absurd rfl joins
  | top limit =>
    obtain ⟨selected, topped⟩ := recaps rfl
    exact if_neg fun capped => capped.elim selected topped
  | filter condition | select entries | count => rfl

theorem record_of_recaps {before after : Query} {call : Call} (kind : call.kind = .top)
    (recaps : before.stage = .selected ∨ before.stage = .topped) :
    before.record after call = [] := by
  cases call with
  | top limit => exact if_pos recaps
  | join join | filter condition | select entries | count => cases kind

theorem eq_of_mem_record {before after : Query} {call : Call} {event : Event}
    (member : event ∈ before.record after call) :
    (∃ join : Join, event = .joined join.target join.source join.relationship) ∨
      event = .advanced before.stage after.stage := by
  unfold record at member
  split at member
  case h_1 join => exact .inl ⟨join, List.mem_singleton.mp member⟩
  case h_2 =>
    split at member
    · cases member
    · exact .inr (List.mem_singleton.mp member)
  case h_3 => exact .inr (List.mem_singleton.mp member)

theorem ends_top (limit : UInt16) :
    (query.top limit).Ends query.scope.Refusal fun after events =>
      events = query.record after (.top limit) := by
  unfold top record
  cases stage : query.stage with
  | selected => exact (rfl : ([] : List Event) = [])
  | topped => exact (rfl : ([] : List Event) = [])
  | base | filtered | counted => exact (rfl : [Event.advanced _ .topped] = _)

/-- What a call records tells how it ends. -/
theorem ends_perform (call : Call) :
    (query.perform call).Ends query.scope.Refusal fun after events =>
      events = query.record after call := by
  cases call with
  | join join => exact query.ends_join join
  | filter condition => exact query.ends_filter condition
  | select entries => exact query.ends_select entries
  | top limit => exact query.ends_top limit
  | count => exact (rfl : [Event.advanced query.stage .counted] = _)

end Query
end TwinGraph
