import Mathlib.Computability.RegularExpressions
import TwinGraph.Proofs.Query.Shape
import TwinGraph.Proofs.Session.Answers

/-!
# The grammar of queries

The calls that a query takes after its origin form a regular language over their kinds: joins, at
most one condition, and then nothing, or a selection and caps in one of their orders, or a count.
The stages of a query are the derivatives of this language.  So a call is offered just where it
leads to a word of the grammar, and nothing but the arguments of a call can refuse such a word.
-/

namespace TwinGraph

namespace Grammar

open RegularExpression

/-- Caps, each in place of the one before it. -/
def caps : RegularExpression CallKind := star (char .top)

/-- A selection, and caps of it. -/
def selection : RegularExpression CallKind := char .select * caps

/-- What may follow a cap of the root: more caps, and then a selection. -/
def furtherCaps : RegularExpression CallKind := caps * (1 + selection)

/-- What may follow the condition. -/
def ending : RegularExpression CallKind :=
  1 + selection + char .top * furtherCaps + char .count

/-- The joins of a query.  Relationships have none. -/
def joins : Collection → RegularExpression CallKind
  | .digitalTwins => star (char .join)
  | .relationships => 1

/-- The words of calls that a query on a collection takes after its origin. -/
def calls (collection : Collection) : RegularExpression CallKind :=
  joins collection * (1 + char .filter) * ending

/-- The words of calls that may follow at a stage. -/
def residual (collection : Collection) : Stage → RegularExpression CallKind
  | .base => calls collection
  | .filtered => ending
  | .selected => caps
  | .topped => furtherCaps
  | .counted => 1

variable {kind : CallKind} {word : List CallKind}

theorem cons_mem_matches' (expression : RegularExpression CallKind) :
    kind :: word ∈ expression.matches' ↔ word ∈ (expression.deriv kind).matches' := by
  rw [← rmatch_iff_matches', ← rmatch_iff_matches', rmatch]

theorem cons_mem_caps : kind :: word ∈ caps.matches' ↔ kind = .top ∧ word ∈ caps.matches' := by
  rw [cons_mem_matches']
  cases kind <;> simp [caps, RegularExpression.deriv]

theorem cons_mem_furtherCaps :
    kind :: word ∈ furtherCaps.matches' ↔
      kind = .top ∧ word ∈ furtherCaps.matches' ∨ kind = .select ∧ word ∈ caps.matches' := by
  rw [cons_mem_matches']
  cases kind <;> simp [furtherCaps, selection, caps, RegularExpression.deriv, matchEpsilon]

theorem cons_mem_ending :
    kind :: word ∈ ending.matches' ↔
      kind = .select ∧ word ∈ caps.matches' ∨ kind = .top ∧ word ∈ furtherCaps.matches' ∨
        kind = .count ∧ word = [] := by
  rw [cons_mem_matches']
  cases kind <;> simp [ending, selection, RegularExpression.deriv, matchEpsilon]

theorem cons_mem_calls {collection : Collection} :
    kind :: word ∈ (calls collection).matches' ↔
      (kind = .join ∧ collection = .digitalTwins) ∧ word ∈ (calls collection).matches' ∨
        kind = .filter ∧ word ∈ ending.matches' ∨ kind :: word ∈ ending.matches' := by
  rw [cons_mem_ending, cons_mem_matches']
  cases kind <;> cases collection <;>
    simp [calls, joins, ending, selection, RegularExpression.deriv, matchEpsilon]

theorem nil_mem_residual (collection : Collection) (stage : Stage) :
    [] ∈ (residual collection stage).matches' := by
  rw [← rmatch_iff_matches']
  cases stage <;> cases collection <;> rfl

end Grammar

namespace Query

variable {before after : Query} {calls : List Call}

/-- The words of calls that may follow on a query. -/
def residual (query : Query) : RegularExpression CallKind :=
  Grammar.residual query.origin.collection query.stage

/-- A stage offers the kinds of calls with which its words begin, and a call leads to the stage
whose words may follow it. -/
theorem cons_mem_residual_iff (query : Query) (call : Call) (word : List CallKind) :
    call.kind :: word ∈ query.residual.matches' ↔
      query.offers call.kind = true ∧ word ∈ (query.extended call).residual.matches' := by
  unfold residual
  rw [origin_extended, stage_extended]
  unfold offers
  generalize call.kind = kind
  cases query.stage with
  | base =>
    rw [Grammar.residual, Grammar.cons_mem_calls, Grammar.cons_mem_ending]
    cases kind <;> simp [Stage.after, Stage.isOpen, Grammar.residual]
  | filtered =>
    rw [Grammar.residual, Grammar.cons_mem_ending]
    cases kind <;> simp [Stage.after, Stage.isOpen, Grammar.residual]
  | selected =>
    rw [Grammar.residual, Grammar.cons_mem_caps]
    cases kind <;> simp [Stage.after, Stage.isOpen, Grammar.residual]
  | topped =>
    rw [Grammar.residual, Grammar.cons_mem_furtherCaps]
    cases kind <;> simp [Stage.after, Stage.isOpen, Grammar.residual]
  | counted =>
    cases kind <;> simp [Stage.after, Stage.isOpen, Grammar.residual]

/-- A run succeeds on the words that may follow, if their arguments are admitted. -/
theorem run_eq_ok_iff :
    before.run calls = .ok after ↔
      calls.map Call.kind ∈ before.residual.matches' ∧ before.AdmitsAll calls ∧
        after = calls.foldl extended before := by
  induction calls generalizing before with
  | nil => simp [AdmitsAll, residual, Grammar.nil_mem_residual, eq_comm (a := after)]
  | cons call calls induction =>
    rw [run_cons_eq_ok_iff, induction, List.map_cons, cons_mem_residual_iff]
    simp only [AdmitsAll, List.foldl_cons]
    tauto

/-- What may follow a word of calls may follow on the query that the word leads to. -/
theorem append_mem_residual_iff (made : before.run calls = .ok after) (word : List CallKind) :
    calls.map Call.kind ++ word ∈ before.residual.matches' ↔ word ∈ after.residual.matches' := by
  induction calls generalizing before with
  | nil =>
    cases made
    rfl
  | cons call calls induction =>
    obtain ⟨offered, -, rest⟩ := run_cons_eq_ok_iff.mp made
    rw [List.map_cons, List.cons_append, cons_mem_residual_iff, induction rest]
    simp [offered]

theorem offers_iff_mem_residual (query : Query) (call : Call) :
    query.offers call.kind = true ↔ [call.kind] ∈ query.residual.matches' := by
  rw [cons_mem_residual_iff]
  exact ⟨fun offered => ⟨offered, Grammar.nil_mem_residual _ _⟩, And.left⟩

theorem Begins.stage_eq {collection : Collection} {query : Query}
    (begins : Begins collection query) :
    query.stage = .base ∧ query.origin.collection = collection := by
  cases begins with
  | start _ made =>
    cases made
    exact ⟨rfl, rfl⟩
  | startAs _ made =>
    obtain ⟨-, started⟩ := Builder.outcome_startAs_eq_ok_iff.mp made
    cases started
    exact ⟨rfl, rfl⟩

theorem Begins.residual_eq {collection : Collection} {query : Query}
    (begins : Begins collection query) : query.residual = Grammar.calls collection := by
  obtain ⟨stage, origin⟩ := begins.stage_eq
  rw [residual, stage, origin]
  rfl

/-- What a query shows of the calls that led to it on a collection. -/
structure Grammatical (collection : Collection) (calls : List Call) (query : Query) : Prop where
  /-- The calls form a word of the grammar. -/
  word : calls.map Call.kind ∈ (Grammar.calls collection).matches'
  /-- A further call is not available if it does not lead to a word again, and only then. -/
  offered : ∀ (session : Session) (slot target : String), session.query? slot = some query →
    ∀ call, session.answer ⟨slot, target, .call call⟩ = .error .notAvailable ↔
      calls.map Call.kind ++ [call.kind] ∉ (Grammar.calls collection).matches'
  /-- So it is with a condition, however it was built. -/
  filterOffered : ∀ (session : Session) (slot target : String), session.query? slot = some query →
    ∀ condition, session.answer ⟨slot, target, .filter (.ok condition)⟩ = .error .notAvailable ↔
      calls.map Call.kind ++ [.filter] ∉ (Grammar.calls collection).matches'
  /-- The text is available once a selection, a cap or a count was made. -/
  rendered : ∀ (session : Session) (slot target : String), session.query? slot = some query →
    session.answer ⟨slot, target, .render⟩ =
      if (calls.map Call.kind).any CallKind.completes then .ok (.text query.text query.text)
      else .error .notAvailable
  /-- The stage tells the form of the projection. -/
  shaped : query.Shaped
  /-- There is a condition if one was attached. -/
  filtered : query.condition.isSome = true ↔ .filter ∈ calls.map Call.kind

theorem answer_eq_notAvailable_iff {session : Session} {slot : String} {query : Query}
    (stored : session.query? slot = some query) (target : String) (call : Call) :
    session.answer ⟨slot, target, .call call⟩ = .error .notAvailable ↔
      query.offers call.kind = false := by
  rw [session.answer_call stored, ← attempt_eq_notAvailable_iff]
  cases query.attempt call with
  | ok made => exact ⟨nofun, nofun⟩
  | error failure => simp [Except.map]

theorem Begins.grammatical {collection : Collection} {first query : Query}
    (begins : Begins collection first) (made : first.run calls = .ok query) :
    query.Grammatical collection calls := by
  have further (call : Call) : query.offers call.kind = false ↔
      calls.map Call.kind ++ [call.kind] ∉ (Grammar.calls collection).matches' := by
    rw [← begins.residual_eq, append_mem_residual_iff made, ← offers_iff_mem_residual,
      Bool.not_eq_true]
  have shapedFirst : first.Shaped := begins.reachable.shaped
  constructor
  · rw [← begins.residual_eq]
    exact (run_eq_ok_iff.mp made).1
  · intro session slot target stored call
    rw [answer_eq_notAvailable_iff stored, further]
  · intro session slot target stored condition
    rw [Session.answer_filter, answer_eq_notAvailable_iff stored, further]
    rfl
  · intro session slot target stored
    rw [Session.answer_render stored]
    have firstOpen : first.stage.isTerminal = false := by
      rw [begins.stage_eq.1]
      rfl
    have terminal := isTerminal_of_run made
    simp only [firstOpen, Bool.false_eq_true, false_or] at terminal
    simp only [terminal]
  · exact (begins.reachable.run made).shaped
  · have gained := isSome_condition_of_run made
    simpa [(shapedFirst.of_base begins.stage_eq.1).1] using gained

/-- Queries grow along the words of the grammar and no others.  Every query has such a word as its
history, and each word is taken in full if the arguments of its calls pass their checks. -/
theorem runs_are_words :
    (∀ query : Query, query.Reachable → ∃ collection first calls,
      Begins collection first ∧ first.run calls = .ok query ∧
        query.Grammatical collection calls) ∧
    ∀ (collection : Collection) (first : Query), Begins collection first →
      (∀ calls query, first.run calls = .ok query ↔
        calls.map Call.kind ∈ (Grammar.calls collection).matches' ∧ first.AdmitsAll calls ∧
          query = calls.foldl extended first) ∧
      ∀ calls query, first.run calls = .ok query → query.Grammatical collection calls := by
  refine ⟨fun query reached => ?_, fun collection first begins => ⟨?_, ?_⟩⟩
  · obtain ⟨collection, first, calls, begins, made⟩ := reached.exists_run
    exact ⟨collection, first, calls, begins, made, begins.grammatical made⟩
  · intro calls query
    rw [run_eq_ok_iff, begins.residual_eq]
  · intro calls query made
    exact begins.grammatical made

/-- A cap, a selection after it and another cap, on a query with a join and a condition. -/
theorem word_of_recapped_selection :
    let condition := Condition.membership "room" "floor" .among ["1"]
    let first : Query := ⟨.base, "twin", ⟨.digitalTwins, "twin"⟩, ⟨["twin"]⟩, [], none,
      .select ⟨["twin"], none⟩, false⟩
    let calls : List Call := [.join ⟨"room", "twin", "contains", none⟩, .filter condition, .top 5,
      .select ["room.name"], .top 7]
    let query : Query := ⟨.selected, "twin", ⟨.digitalTwins, "twin"⟩, ⟨["twin", "room"]⟩,
      [⟨"room", "twin", "contains", none⟩], some condition, .select ⟨["room.name"], some 7⟩, false⟩
    let session : Session := ⟨.new, [("q", query)]⟩
    (Begins .digitalTwins first ∧ first.run calls = .ok query) ∧
      (calls.map Call.kind ∈ (Grammar.calls .digitalTwins).matches' ∧ first.AdmitsAll calls) ∧
      session.query? "q" = some query ∧
      session.answer ⟨"q", "q", .call .count⟩ = .error .notAvailable ∧
      session.answer ⟨"q", "q", .render⟩ = .ok (.text query.text query.text) ∧
      query.Reachable ∧ ∃ collection first calls, Begins collection first ∧
        first.run calls = .ok query ∧ query.Grammatical collection calls := by
  intro condition first calls query session
  have begins : Begins .digitalTwins first := @Begins.start _ _ first .new rfl
  have made : first.run calls = .ok query := by rfl
  have stored : session.query? "q" = some query := by rfl
  obtain ⟨reached, words⟩ := runs_are_words
  obtain ⟨accepted, each⟩ := words .digitalTwins first begins
  obtain ⟨word, admitted, -⟩ := (accepted calls query).mp made
  have grammatical := each calls query made
  have noWord : calls.map Call.kind ++ [.count] ∉ (Grammar.calls .digitalTwins).matches' := by
    decide
  have refused := (grammatical.offered session "q" "q" stored .count).mpr noWord
  have rendered := grammatical.rendered session "q" "q" stored
  exact ⟨⟨begins, made⟩, ⟨word, admitted⟩, stored, refused, rendered,
    begins.reachable.run made, reached query (begins.reachable.run made)⟩

end Query
end TwinGraph
