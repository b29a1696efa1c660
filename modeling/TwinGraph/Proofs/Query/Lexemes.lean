import TwinGraph.Proofs.Condition.Lexemes
import TwinGraph.Proofs.Query.Closed
import TwinGraph.Proofs.Text.Case

/-!
# The words of a query text and its aliases

Every word of a query text is a word of the language or an alias of the scope.  An alias is never a
reserved word, and of the words of the language only the names of the functions that take a string
are not reserved.
-/

namespace TwinGraph

open Lexeme Text

section Clauses

variable {names : List String}

theorem Origin.renderAll_lexemes (origin : Origin) :
    renderAll origin.lexemes = origin.render := by
  have rendered : origin.render = "FROM".toList ++ ' ' :: (origin.collection.token.toList ++
      ' ' :: origin.root.toList) := rfl
  simp [lexemes, rendered]

theorem Origin.allFit_lexemes {origin : Origin} (known : origin.root ∈ names) :
    AllFit names origin.lexemes := by
  have word : "FROM" ∈ languageWords := by decide
  simp [lexemes, word, origin.collection.token_mem_languageWords, known]

theorem Join.renderAll_lexemes (join : Join) : renderAll join.lexemes = join.render := by
  have rendered : join.render = "JOIN".toList ++ ' ' :: (join.target.toList ++
      ' ' :: ("RELATED".toList ++ ' ' :: (join.source.toList ++ '.' :: (join.relationship.toList ++
        join.relationshipAlias.elim [] (' ' :: ·.toList))))) := rfl
  cases relationshipAlias : join.relationshipAlias <;>
    simp [lexemes, rendered, relationshipAlias]

theorem Join.allFit_lexemes {join : Join} (source : join.source ∈ names)
    (introduced : ∀ name ∈ join.introduced, name ∈ names) : AllFit names join.lexemes := by
  have words : "JOIN" ∈ languageWords ∧ "RELATED" ∈ languageWords := by decide
  have point : (sign ['.']).Fits names := fits_sign rfl
  obtain ⟨target, others⟩ := List.forall_mem_cons.mp introduced
  cases relationshipAlias : join.relationshipAlias with
  | none => simp [lexemes, words, source, target, point, relationshipAlias]
  | some name =>
    have own : name ∈ names := others name (by simp [relationshipAlias])
    simp [lexemes, words, source, target, own, point, relationshipAlias]

theorem renderAll_entryLexemes (entry : String) :
    renderAll (entryLexemes entry) = entry.toList := by
  simp [entryLexemes, toList_firstPart]

theorem renderAll_topLexemes (limit? : Option UInt16) :
    renderAll (topLexemes limit?) = renderTop limit? := by
  cases limit? with
  | none => rfl
  | some limit =>
    have rendered : renderTop (some limit) =
        ' ' :: ("TOP".toList ++ '(' :: (Nat.toDigits 10 limit.toNat ++ [')'])) := rfl
    simp [topLexemes, rendered, Condition.renderCall]

theorem allFit_topLexemes (limit? : Option UInt16) : AllFit names (topLexemes limit?) := by
  cases limit? with
  | none => exact allFit_nil
  | some limit =>
    have numeral : (numeral (Nat.toDigits 10 limit.toNat)).Fits names :=
      fun _ member => isNumeralPart_of_mem_toDigits member
    exact allFit_cons.mpr ⟨fits_space, .call (by decide) (by simp [numeral])⟩

namespace Projection

theorem renderAll_lexemes (projection : Projection) :
    renderAll projection.lexemes = projection.render := by
  cases projection with
  | select selection =>
    have rendered : (select selection).render = "SELECT".toList ++ (renderTop selection.top ++
        ' ' :: Text.commaSeparated (selection.entries.map String.toList)) := rfl
    simp [lexemes, rendered, renderAll_topLexemes, Function.comp_def, renderAll_entryLexemes]
  | count => rfl

theorem allFit_lexemes {projection : Projection}
    (known : ∀ selection, projection = .select selection → ∀ entry ∈ selection.entries,
      firstPart '.' entry ∈ names) : AllFit names projection.lexemes := by
  have word : "SELECT" ∈ languageWords := by decide
  cases projection with
  | select selection =>
    have entries : AllFit names (Lexeme.commaSeparated (selection.entries.map entryLexemes)) := by
      apply AllFit.commaSeparated
      rw [List.forall_mem_map]
      intro entry member
      simp [entryLexemes, known selection rfl entry member]
    simp [lexemes, word, allFit_topLexemes, entries]
  | count =>
    have call : AllFit names (call "COUNT" []) := .call (by decide) nofun
    simp [lexemes, word, call]

end Projection

theorem renderAll_whereLexemes (condition : Condition) :
    renderAll (whereLexemes condition) = ' ' :: renderWhere condition.render := by
  have rendered : renderWhere condition.render = "WHERE".toList ++ ' ' :: condition.render := rfl
  simp [whereLexemes, condition.renderAll_lexemes, rendered]

end Clauses

namespace Query

variable {query : Query}

/-- The lexemes of a query in a row are its text. -/
theorem renderAll_lexemes (query : Query) : renderAll query.lexemes = query.render := by
  have joins : renderAll (query.joins.flatMap (space :: ·.lexemes)) =
      query.joins.flatMap (' ' :: ·.render) := by
    rw [renderAll, List.flatMap_assoc]
    refine List.flatMap_congr fun join _ => ?_
    exact congrArg (List.cons ' ') join.renderAll_lexemes
  have condition : renderAll (query.condition.elim [] whereLexemes) =
      query.condition.elim [] (' ' :: renderWhere ·.render) := by
    cases query.condition with
    | none => rfl
    | some condition => exact renderAll_whereLexemes condition
  simp [lexemes, render, renderTail, query.projection.renderAll_lexemes,
    query.origin.renderAll_lexemes, joins, condition]

/-- Whether calls built the condition of a query, if it has one. -/
def Built (query : Query) : Prop :=
  ∀ condition, query.condition = some condition → condition.Built

theorem Reachable.allFit_lexemes (reached : query.Reachable) (built : query.Built) :
    AllFit query.scope.aliases query.lexemes := by
  have agrees := reached.wellScoped
  have closed := reached.closed
  have projection : AllFit query.scope.aliases query.projection.lexemes :=
    Projection.allFit_lexemes fun selection chosen entry member =>
      (closed.entries selection chosen entry member).1
  have root : query.origin.root ∈ query.scope.aliases :=
    agrees.origin_root ▸ agrees.root_mem_aliases
  have joins : AllFit query.scope.aliases (query.joins.flatMap (space :: ·.lexemes)) := by
    refine .flatMap fun join member => allFit_cons.mpr ⟨fits_space, ?_⟩
    apply Join.allFit_lexemes (agrees.source_mem_aliases member)
    exact fun name => agrees.mem_aliases_of_mem_introduced member
  have condition : AllFit query.scope.aliases (query.condition.elim [] whereLexemes) := by
    cases attached : query.condition with
    | none => exact allFit_nil
    | some condition =>
      have word : "WHERE" ∈ languageWords := by decide
      have fits : AllFit query.scope.aliases condition.lexemes := by
        apply Condition.allFit_lexemes (Condition.built_iff.mp (built condition attached))
        exact closed.condition condition attached
      simp [whereLexemes, word, fits]
  simp [lexemes, projection, Origin.allFit_lexemes root, joins, condition]

end Query

/-- A word of the language is reserved, or it is the name of a function that takes a string. -/
theorem isReserved_or_binary {word : String} (member : word ∈ languageWords) :
    isReserved word = true ∨
      ∃ function : ScalarFunction, function.arity = .binary ∧ function.token = word := by
  have checked : languageWords.all (fun word => isReserved word ||
      ScalarFunction.all.any fun function =>
        function.arity = .binary ∧ function.token = word) = true := by decide +kernel
  have either := List.all_eq_true.mp checked word member
  rw [Bool.or_eq_true, List.any_eq_true] at either
  exact either.imp_right fun ⟨function, _, found⟩ => ⟨function, of_decide_eq_true found⟩

theorem binary_of_clash {name word : String} (usable : IsAlias name)
    (member : word ∈ languageWords) (clash : equalIgnoringCase name word = true) :
    ∃ function : ScalarFunction, function.arity = .binary ∧ function.token = word := by
  rcases isReserved_or_binary member with reserved | found
  · rw [equalIgnoringCase_iff] at clash
    rw [isReserved_iff, ← clash, ← isReserved_iff, usable.2] at reserved
    cases reserved
  · exact found

/-- The names of the functions that take a string can be aliases, in any casing. -/
theorem isAlias_of_clash {function : ScalarFunction} {name : String}
    (binary : function.arity = .binary) (clash : equalIgnoringCase name function.token = true) :
    IsAlias name := by
  have capitals_eq := upperCase_eq_iff.mp (equalIgnoringCase_iff.mp clash)
  rw [← isAlias_capitals, capitals_eq, isAlias_capitals]
  cases function with
  | startsWith | endsWith | contains => decide +kernel
  | _ => cases binary

namespace Query

/-- A query whose alias is called like the function in its condition. -/
def namesake (function : ScalarFunction) (name : String) : Query :=
  ⟨.counted, name, ⟨.digitalTwins, name⟩, ⟨[name]⟩, [],
    some (.scalarTest name "name" function (some "a")), .count, false⟩

theorem reachable_namesake (function : ScalarFunction) {name : String} (usable : IsAlias name) :
    (namesake function name).Reachable := by
  let condition : Condition := .scalarTest name "name" function (some "a")
  let started : Query := ⟨.base, name, ⟨.digitalTwins, name⟩, ⟨[name]⟩, [], none,
    .select ⟨[name], none⟩, false⟩
  let filtered : Query := { started with condition := some condition, stage := .filtered }
  have start : (Builder.new.startAs .digitalTwins name).outcome = .ok started :=
    Builder.outcome_startAs_eq_ok_iff.mpr ⟨usable, rfl⟩
  have filter : (started.perform (.filter condition)).outcome = .ok filtered := by
    refine outcome_filter_eq_ok_iff.mpr ⟨?_, rfl⟩
    simp [condition, started, Condition.aliases]
  have count : (filtered.perform .count).outcome = .ok (namesake function name) :=
    outcome_count filtered
  exact .perform (.perform (.startAs .new start) rfl filter) rfl count

theorem built_namesake (function : ScalarFunction) (name : String) :
    (namesake function name).Built := by
  intro condition attached
  cases attached
  apply Condition.built_iff.mpr
  simpa [Condition.Admissible] using by decide

/-- A name like that of a function that takes a string, in any casing, is the alias of a complete
query that calls the function. -/
theorem exists_clash {function : ScalarFunction} {name : String}
    (binary : function.arity = .binary) (clash : equalIgnoringCase name function.token = true) :
    ∃ query : Query, query.Reachable ∧ query.Built ∧ query.stage.isTerminal = true ∧
      name ∈ query.scope.aliases ∧ .aliasName name ∈ query.lexemes ∧
      .word function.token ∈ query.lexemes := by
  refine ⟨namesake function name, reachable_namesake function (isAlias_of_clash binary clash),
    built_namesake function name, rfl, List.mem_singleton_self name, ?_, ?_⟩
  · simp [namesake, lexemes, Origin.lexemes]
  · simp [namesake, lexemes, whereLexemes, Condition.lexemes, call]

/-- Every text is a row of lexemes whose words are words of the language and whose aliases are in
scope, while no number and no sign holds a letter.  In every casing an alias differs from all words
of the language just if it differs from the names of the functions that take a string. -/
theorem differs_from_words_iff (query : Query) (reached : query.Reachable) (built : query.Built) :
    renderAll query.lexemes = query.render ∧ AllFit query.scope.aliases query.lexemes ∧
    ∀ name ∈ query.scope.aliases,
      (∀ word ∈ languageWords, equalIgnoringCase name word = false) ↔
        ∀ function : ScalarFunction, function.arity = .binary →
          equalIgnoringCase name function.token = false := by
  refine ⟨query.renderAll_lexemes, reached.allFit_lexemes built, fun name known => ?_⟩
  constructor
  · intro differs function _
    exact differs function.token function.token_mem_languageWords
  · intro differs word member
    refine Bool.eq_false_iff.mpr fun clash => ?_
    obtain ⟨function, binary, rfl⟩ :=
      binary_of_clash (reached.wellScoped.isAlias known) member clash
    exact Bool.eq_false_iff.mp (differs function binary) clash

/-- The alias of a query is called like the function in its condition. -/
theorem differs_from_words_iff_of_startswith :
    let query := namesake .startsWith "startswith"
    query.Reachable ∧ query.Built ∧ query.stage.isTerminal = true ∧
      query.text = "SELECT COUNT() FROM DIGITALTWINS startswith WHERE " ++
        "STARTSWITH(startswith.name, 'a')" ∧
      renderAll query.lexemes = query.render ∧ AllFit query.scope.aliases query.lexemes ∧
      ¬ ∀ word ∈ languageWords, equalIgnoringCase "startswith" word = false := by
  intro query
  have reached : query.Reachable := reachable_namesake .startsWith (by decide +kernel)
  have built : query.Built := built_namesake .startsWith "startswith"
  have text : query.text = "SELECT COUNT() FROM DIGITALTWINS startswith WHERE " ++
      "STARTSWITH(startswith.name, 'a')" := by
    apply String.toList_inj.mp
    decide +kernel
  obtain ⟨rendered, fits, differs⟩ := differs_from_words_iff query reached built
  refine ⟨reached, built, rfl, text, rendered, fits, fun differ => ?_⟩
  have different := (differs "startswith" (List.mem_singleton_self _)).mp differ .startsWith rfl
  have same : equalIgnoringCase "startswith" "STARTSWITH" = true := by decide +kernel
  exact Bool.eq_false_iff.mp different same

/-- An alias of a complete query can be a word of the language. -/
theorem not_differs_from_words :
    ¬ ∀ query : Query, query.Reachable → query.Built → query.stage.isTerminal = true →
      ∀ name ∈ query.scope.aliases, ∀ word ∈ languageWords,
        equalIgnoringCase name word = false := by
  intro differs
  have same : equalIgnoringCase "STARTSWITH" (ScalarFunction.token .startsWith) = true := by
    decide +kernel
  obtain ⟨query, reached, built, terminal, known, -⟩ := exists_clash rfl same
  have different := differs query reached built terminal "STARTSWITH" known _
    (ScalarFunction.token_mem_languageWords .startsWith)
  exact Bool.eq_false_iff.mp different same

end Query
end TwinGraph
