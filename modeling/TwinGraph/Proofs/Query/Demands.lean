import TwinGraph.Proofs.Query.Run

/-!
# What calls demand of their arguments

A call looks at its arguments one demand after the other.  It succeeds if they meet all of them,
and otherwise the first demand that they do not meet tells how the call is refused, whatever else
is wrong with them.
-/

namespace TwinGraph

/-- What is wrong with a text that is no alias. -/
def aliasFault (text : String) : Reason :=
  if Text.isBlank text then .blank
  else if !Text.isWord text then .notIdentifier text
  else .reservedWord text

/-- A condition on the arguments of a call, and the refusal of those that do not meet it. -/
structure Demand where
  /-- Whether the arguments meet the condition. -/
  met : Bool
  /-- How they are refused otherwise. -/
  refusal : QueryError

namespace Demand

/-- A field has to hold something. -/
def nonBlank (field text : String) : Demand :=
  ⟨!Text.isBlank text, .invalidArgument field .blank⟩

/-- A field has to hold what can be an alias. -/
def usable (field text : String) : Demand :=
  ⟨decide (IsAlias text), .invalidArgument field (aliasFault text)⟩

/-- A name has to be in scope. -/
def known (scope : Scope) (name : String) : Demand :=
  ⟨scope.contains name, .unknownAlias name scope.aliases⟩

/-- A name must not be in scope. -/
def fresh (scope : Scope) (name : String) : Demand :=
  ⟨!scope.contains name, .duplicateAlias name⟩

/-- Whether some demands are not all met, and an error is the refusal of the first one that is
not. -/
def Refuses (demands : List Demand) (error : QueryError) : Prop :=
  ∃ earlier demand later, demands = earlier ++ demand :: later ∧
    (∀ other ∈ earlier, other.met = true) ∧ demand.met = false ∧ error = demand.refusal

/-- Look at demands in order. -/
def check : List Demand → Except QueryError Unit
  | [] => .ok ()
  | demand :: rest => if demand.met then check rest else .error demand.refusal

variable {demand : Demand} {demands rest : List Demand} {error : QueryError}

theorem check_cons_of_met (met : demand.met = true) : check (demand :: rest) = check rest :=
  if_pos met

theorem check_cons_of_unmet (unmet : demand.met = false) :
    check (demand :: rest) = .error demand.refusal :=
  if_neg (Bool.eq_false_iff.mp unmet)

theorem check_append (first second : List Demand) :
    check (first ++ second) = (check first).bind fun _ => check second := by
  induction first with
  | nil => rfl
  | cons demand first induction =>
    cases met : demand.met with
    | true => rw [List.cons_append, check_cons_of_met met, check_cons_of_met met, induction]
    | false =>
      rw [List.cons_append, check_cons_of_unmet met, check_cons_of_unmet met]
      rfl

theorem refuses_cons :
    Refuses (demand :: rest) error ↔
      demand.met = false ∧ error = demand.refusal ∨ demand.met = true ∧ Refuses rest error := by
  constructor
  · rintro ⟨earlier, unmet, later, division, passed, failed, told⟩
    cases earlier with
    | nil =>
      cases division
      exact .inl ⟨failed, told⟩
    | cons first earlier =>
      cases division
      rw [List.forall_mem_cons] at passed
      exact .inr ⟨passed.1, earlier, unmet, later, rfl, passed.2, failed, told⟩
  · rintro (⟨failed, told⟩ | ⟨met, earlier, unmet, later, rfl, passed, failed, told⟩)
    · exact ⟨[], demand, rest, rfl, by simp, failed, told⟩
    · exact ⟨demand :: earlier, unmet, later, rfl, List.forall_mem_cons.mpr ⟨met, passed⟩, failed,
        told⟩

theorem check_eq_error_iff : check demands = .error error ↔ Refuses demands error := by
  induction demands with
  | nil => simp [check, Refuses]
  | cons demand rest induction =>
    rw [refuses_cons, ← induction]
    cases met : demand.met with
    | true => simp [check_cons_of_met met]
    | false => simp [check_cons_of_unmet met, eq_comm (a := error)]

end Demand

open Demand

namespace Traced

variable {α β : Type} {call : Traced QueryError α} {next : α → Traced QueryError β}
  {demands more : List Demand} {middle : α} {result : β}

/-- Whether a call looks at some demands in order and gives a result if all of them are met. -/
def Asks (call : Traced QueryError α) (demands : List Demand) (result : α) : Prop :=
  call.outcome = (check demands).map fun _ => result

theorem asks_of_eq_ok (made : call.outcome = .ok middle) : call.Asks [] middle := made

theorem Asks.bind (first : call.Asks demands middle) (second : (next middle).Asks more result) :
    (call >>= next).Asks (demands ++ more) result := by
  unfold Asks at first
  unfold Asks
  rw [outcome_bind, first, check_append]
  cases check demands with
  | error error => rfl
  | ok _ => exact second

theorem Asks.finish (asks : call.Asks demands middle)
    (made : (next middle).outcome = .ok result) : (call >>= next).Asks demands result := by
  have whole := asks.bind (asks_of_eq_ok made)
  rwa [List.append_nil] at whole

theorem Asks.outcome_eq_error_iff {error : QueryError} (asks : call.Asks demands middle) :
    call.outcome = .error error ↔ Refuses demands error := by
  rw [← check_eq_error_iff, asks]
  cases check demands with
  | error error => simp [Except.map]
  | ok _ => simp [Except.map]

end Traced

theorem asks_requireNonBlank (field text : String) :
    (Traced.silent (requireNonBlank field text)).Asks [nonBlank field text] () := by
  unfold Traced.Asks Traced.silent requireNonBlank check nonBlank
  cases Text.isBlank text <;> rfl

theorem validateAlias_eq_check (field text : String) :
    validateAlias field text = check [usable field text] := by
  by_cases accepted : IsAlias text
  · rw [validateAlias_eq_ok_iff.mpr accepted, check_cons_of_met (decide_eq_true accepted)]
    rfl
  · rw [check_cons_of_unmet (decide_eq_false accepted)]
    unfold validateAlias usable aliasFault
    split
    · rfl
    split
    · rfl
    · split
      · rfl
      · simp_all [IsAlias]

namespace Scope

theorem asks_require (scope : Scope) (name : String) :
    (scope.require name).Asks [known scope name] () := by
  unfold require Traced.Asks check known
  cases scope.contains name <;> rfl

theorem asks_requireAll (scope : Scope) (names : List String) :
    (scope.requireAll names).Asks (names.map (known scope)) () := by
  induction names with
  | nil => exact Traced.asks_of_eq_ok rfl
  | cons name rest induction => exact (scope.asks_require name).bind induction

theorem asks_introduce (scope : Scope) (field name : String) :
    (Traced.silent (scope.introduce field name)).Asks [usable field name, fresh scope name]
      ⟨scope.aliases ++ [name]⟩ := by
  have unfolded : scope.introduce field name = (validateAlias field name).bind fun _ =>
      if scope.contains name then .error (.duplicateAlias name)
      else .ok ⟨scope.aliases ++ [name]⟩ := rfl
  unfold Traced.Asks Traced.silent
  rw [unfolded, validateAlias_eq_check]
  cases accepted : (usable field name).met with
  | false => rw [check_cons_of_unmet accepted, check_cons_of_unmet accepted]; rfl
  | true =>
    rw [check_cons_of_met accepted, check_cons_of_met accepted]
    unfold check fresh
    cases scope.contains name <;> rfl

theorem asks_introduceOptional (scope : Scope) (field : String) (name? : Option String) :
    (Traced.silent (scope.introduceOptional field name?)).Asks
      (name?.toList.flatMap fun name => [usable field name, fresh scope name])
      ⟨scope.aliases ++ name?.toList⟩ := by
  cases name? with
  | none => exact Traced.asks_of_eq_ok (by simp [introduceOptional])
  | some name => exact scope.asks_introduce field name

end Scope

namespace Query

variable {query : Query} {call : Call}

/-- What a call demands of its arguments, in the order in which it looks at them.  The alias of a
relationship is compared to a scope that holds the target of the join already. -/
def demands (query : Query) : Call → List Demand
  | .join join =>
    nonBlank "relationship" join.relationship :: known query.scope join.source ::
    usable "alias" join.target :: fresh query.scope join.target ::
    join.relationshipAlias.toList.flatMap fun name =>
      [usable "relationship_alias" name, fresh ⟨query.scope.aliases ++ [join.target]⟩ name]
  | .filter condition => condition.aliases.map (known query.scope)
  | .select entries =>
    ⟨!(query.chosen entries).entries.isEmpty, .invalidArgument "aliases"
      (if query.stage = .topped then .noEntries else .onlyBlankEntries)⟩ ::
    ((query.chosen entries).entries.map (Text.firstPart '.')).map (known query.scope)
  | .top _ | .count => []

theorem asks_join (query : Query) (join : Join) :
    (query.join join).Asks (query.demands (.join join)) (query.extended (.join join)) := by
  have grown : query.scope.aliases ++ join.introduced =
      query.scope.aliases ++ [join.target] ++ join.relationshipAlias.toList := by
    simp [Join.introduced]
  simp only [Query.join, demands, extended, grown]
  refine (asks_requireNonBlank _ _).bind ?_
  refine (query.scope.asks_require _).bind ?_
  refine (query.scope.asks_introduce _ _).bind ?_
  exact (Scope.asks_introduceOptional _ _ _).finish rfl

theorem asks_filter (query : Query) (condition : Condition) :
    (query.filter condition).Asks (query.demands (.filter condition))
      (query.extended (.filter condition)) :=
  (query.scope.asks_requireAll condition.aliases).finish rfl

/-- Both ways to select entries look for one entry first, and then at each of them. -/
theorem asks_checkEntries (query : Query) (entries : List String) (top : Option UInt16)
    (reason : Reason) :
    (if entries.isEmpty then Traced.silent (.error (.invalidArgument "aliases" reason))
      else do
        query.checkEntries entries
        advance { query with projection := .select ⟨entries, top⟩ } .selected :
          Traced QueryError Query).Asks
      (⟨!entries.isEmpty, .invalidArgument "aliases" reason⟩ ::
        (entries.map (Text.firstPart '.')).map (known query.scope))
      { query with projection := .select ⟨entries, top⟩, stage := .selected } := by
  cases empty : entries.isEmpty with
  | true => rfl
  | false => exact (query.scope.asks_requireAll (entries.map (Text.firstPart '.'))).finish rfl

theorem asks_select (query : Query) (entries : List String) :
    (query.select entries).Asks (query.demands (.select entries))
      (query.extended (.select entries)) := by
  simp only [Query.demands, Query.extended, Query.select, chosen]
  split
  · exact query.asks_checkEntries entries query.projection.top .noEntries
  · exact query.asks_checkEntries _ none .onlyBlankEntries

/-- Every call does no more than to look at its demands before it changes the query. -/
theorem asks_perform (query : Query) (call : Call) :
    (query.perform call).Asks (query.demands call) (query.extended call) := by
  cases call with
  | join join => exact query.asks_join join
  | filter condition => exact query.asks_filter condition
  | select entries => exact query.asks_select entries
  | top limit => exact Traced.asks_of_eq_ok (outcome_top query limit)
  | count => exact Traced.asks_of_eq_ok (outcome_count query)

theorem attempt_eq_error_iff {failure : Failure} (offered : query.offers call.kind = true) :
    query.attempt call = .error failure ↔
      ∃ error, failure = .refused error ∧ Refuses (query.demands call) error := by
  simp only [← (query.asks_perform call).outcome_eq_error_iff]
  constructor
  · intro failed
    cases outcome : (query.perform call).outcome with
    | error error =>
      rw [attempt_of_refused offered outcome] at failed
      cases failed
      exact ⟨error, rfl, rfl⟩
    | ok after =>
      rw [attempt, if_pos offered, outcome] at failed
      cases failed
  · rintro ⟨error, rfl, refused⟩
    exact attempt_of_refused offered refused

end Query
end TwinGraph
