import TwinGraph.Proofs.Condition.Calls
import TwinGraph.Proofs.Condition.Rendering
import TwinGraph.Proofs.Literal
import TwinGraph.Query.Lexemes

/-!
# The lexemes of a condition

The lexemes of a condition in a row are its text.  Its words are words of the language and its
aliases are those that it refers to, while no numeral and no sign holds a letter.
-/

namespace TwinGraph

open Text

namespace Lexeme

/-- What a lexeme of a text may be whose aliases are among some names. -/
def Fits (names : List String) : Lexeme → Prop
  | word spelling => spelling ∈ languageWords
  | aliasName spelling => spelling ∈ names
  | numeral text => ∀ character ∈ text, isNumeralPart character = true
  | sign text => ∀ character ∈ text, isWordPart character = false
  | name _ | quoted _ => True

/-- The text of lexemes in a row. -/
def renderAll (lexemes : List Lexeme) : List Char :=
  lexemes.flatMap render

/-- Whether every lexeme of a row fits. -/
def AllFit (names : List String) (lexemes : List Lexeme) : Prop :=
  ∀ lexeme ∈ lexemes, lexeme.Fits names

section Rows

variable {names : List String} {lexeme : Lexeme} {row other separator : List Lexeme}
  {rows : List (List Lexeme)}

@[simp]
theorem renderAll_nil : renderAll [] = [] := rfl

@[simp]
theorem renderAll_cons : renderAll (lexeme :: row) = lexeme.render ++ renderAll row :=
  List.flatMap_cons

@[simp]
theorem renderAll_append : renderAll (row ++ other) = renderAll row ++ renderAll other :=
  List.flatMap_append

theorem renderAll_intercalate : renderAll (separator.intercalate rows) =
    (renderAll separator).intercalate (rows.map renderAll) := by
  cases rows with
  | nil => rfl
  | cons first rest =>
    rw [List.map_cons, intercalate_cons, intercalate_cons, renderAll_append, List.flatMap_map]
    simp only [renderAll, List.flatMap_assoc, List.flatMap_append]

@[simp]
theorem renderAll_commaSeparated :
    renderAll (commaSeparated rows) = Text.commaSeparated (rows.map renderAll) :=
  renderAll_intercalate

@[simp]
theorem renderAll_call (called : String) :
    renderAll (call called rows) = Condition.renderCall called (rows.map renderAll) := by
  rw [call, renderAll_cons, renderAll_cons, renderAll_append, renderAll_commaSeparated]
  rfl

@[simp]
theorem allFit_nil : AllFit names [] := nofun

@[simp]
theorem allFit_cons : AllFit names (lexeme :: row) ↔ lexeme.Fits names ∧ AllFit names row :=
  List.forall_mem_cons

@[simp]
theorem allFit_append : AllFit names (row ++ other) ↔ AllFit names row ∧ AllFit names other :=
  List.forall_mem_append

@[simp]
theorem fits_word {spelling : String} : (word spelling).Fits names ↔ spelling ∈ languageWords :=
  Iff.rfl

@[simp]
theorem fits_aliasName {spelling : String} : (aliasName spelling).Fits names ↔ spelling ∈ names :=
  Iff.rfl

@[simp]
theorem fits_name {text : List Char} : (name text).Fits names := trivial

@[simp]
theorem fits_quoted {value : String} : (quoted value).Fits names := trivial

theorem fits_sign {text : List Char} (bare : text.any isWordPart = false) :
    (sign text).Fits names := by
  intro character member
  exact Bool.eq_false_iff.mpr (List.any_eq_false.mp bare character member)

@[simp]
theorem fits_space : space.Fits names := fits_sign rfl

theorem AllFit.flatMap {α : Type} {items : List α} {lexemes : α → List Lexeme}
    (each : ∀ item ∈ items, AllFit names (lexemes item)) :
    AllFit names (items.flatMap lexemes) := by
  intro lexeme member
  obtain ⟨item, listed, within⟩ := List.mem_flatMap.mp member
  exact each item listed lexeme within

theorem AllFit.intercalate (between : AllFit names separator)
    (each : ∀ row ∈ rows, AllFit names row) : AllFit names (separator.intercalate rows) := by
  cases rows with
  | nil => exact allFit_nil
  | cons first rest =>
    rw [List.forall_mem_cons] at each
    rw [intercalate_cons, allFit_append]
    refine ⟨each.1, .flatMap fun row member => ?_⟩
    exact allFit_append.mpr ⟨between, each.2 row member⟩

theorem AllFit.commaSeparated (each : ∀ row ∈ rows, AllFit names row) :
    AllFit names (commaSeparated rows) := by
  apply AllFit.intercalate
  · exact allFit_cons.mpr ⟨fits_sign rfl, allFit_nil⟩
  · exact each

theorem AllFit.call {called : String} (known : called ∈ languageWords)
    (each : ∀ row ∈ rows, AllFit names row) : AllFit names (call called rows) := by
  refine allFit_cons.mpr ⟨known, allFit_cons.mpr ⟨fits_sign rfl, allFit_append.mpr ⟨?_, ?_⟩⟩⟩
  · exact .commaSeparated each
  · exact allFit_cons.mpr ⟨fits_sign rfl, allFit_nil⟩

end Rows
end Lexeme

open Lexeme

theorem Collection.token_mem_languageWords (collection : Collection) :
    collection.token ∈ languageWords := by
  cases collection <;> decide

theorem MembershipKind.token_mem_languageWords (kind : MembershipKind) :
    kind.token ∈ languageWords := by
  cases kind <;> decide

theorem Connective.token_mem_languageWords (connective : Connective) :
    connective.token ∈ languageWords := by
  cases connective <;> decide

theorem ScalarFunction.token_mem_languageWords (function : ScalarFunction) :
    function.token ∈ languageWords := by
  cases function <;> decide

theorem ComparisonOperator.fits_token {names : List String} (operator : ComparisonOperator) :
    (sign operator.token.toList).Fits names := by
  apply fits_sign
  cases operator <;> decide

namespace Literal

theorem render_lexeme (literal : Literal) : literal.lexeme.render = literal.render := by
  cases literal with
  | boolean value => cases value <;> rfl
  | string value | integer value | float value | null => rfl

theorem fits_lexeme {names : List String} {literal : Literal} (finite : literal.isFinite = true) :
    literal.lexeme.Fits names := by
  cases literal with
  | string value => exact fits_quoted
  | integer value => exact fun _ member => isNumeralPart_of_mem_render rfl finite member
  | float value => exact fun _ member => isNumeralPart_of_mem_render rfl finite member
  | boolean value =>
    have known : "true" ∈ languageWords ∧ "false" ∈ languageWords := by decide
    cases value with
    | true => exact known.1
    | false => exact known.2
  | null =>
    have known : "null" ∈ languageWords := by decide
    exact known

end Literal

namespace Condition

variable {names : List String}

theorem renderAll_targetLexemes (qualifier column : String) :
    renderAll (targetLexemes qualifier column) = qualify qualifier column := by
  unfold targetLexemes qualify
  split
  · exact List.append_nil _
  · simp

theorem allFit_targetLexemes {qualifier : String} (column : String)
    (known : ∀ name ∈ [qualifier].filter (· != ""), name ∈ names) :
    AllFit names (targetLexemes qualifier column) := by
  unfold targetLexemes
  split
  · simp
  · next named =>
    have listed : qualifier ∈ names := known qualifier (by simp [named])
    have point : (sign ['.']).Fits names := fits_sign rfl
    simp [listed, point]

theorem lexemesOfEach_eq (conditions : List Condition) :
    lexemesOfEach conditions = conditions.map lexemes := by
  induction conditions with
  | nil => rfl
  | cons first rest induction => simp [lexemesOfEach, induction]

theorem lexemes_group (connective : Connective) (children : List Condition) :
    lexemes (group connective children) = sign ['('] ::
      ([space, .word connective.token, space].intercalate (children.map lexemes) ++
        [sign [')']]) := by
  rw [lexemes, lexemesOfEach_eq]

/-- The lexemes of a condition in a row are its text. -/
theorem renderAll_lexemes (condition : Condition) :
    renderAll condition.lexemes = condition.render := by
  induction condition using induction_on with
  | comparison qualifier column operator value =>
    simp [lexemes, renderAll_targetLexemes, render, value.render_lexeme]
  | membership qualifier column kind values =>
    simp [lexemes, renderAll_targetLexemes, render, quoteList, Function.comp_def]
  | modelTest qualifier identifier => simp [lexemes, render, Function.comp_def]
  | scalarTest qualifier column function argument =>
    rw [lexemes, renderAll_call, List.map_cons, renderAll_targetLexemes]
    cases arity : function.arity with
    | unary => simp [argumentLexemes, render, renderTest, arity]
    | binary => simp [argumentLexemes, render, renderTest, arity]
  | negation inner induction => simp [lexemes, induction, render_negation]
  | group connective children induction =>
    have members : (children.map lexemes).map renderAll = children.map render := by
      rw [List.map_map]
      exact List.map_congr_left induction
    have between : renderAll [space, .word connective.token, space] =
        renderConnective connective := by simp [renderConnective]
    rw [lexemes_group, render_group, renderAll_cons, renderAll_append, renderAll_intercalate,
      members, between]
    simp

/-- The words of a condition that calls build are words of the language. -/
theorem allFit_lexemes {condition : Condition} (admissible : condition.Everywhere Admissible)
    (known : ∀ name ∈ condition.aliases, name ∈ names) : AllFit names condition.lexemes := by
  induction condition using induction_on with
  | comparison qualifier column operator value =>
    have finite : value.isFinite = true := admissible.self.2
    have target := allFit_targetLexemes column known
    simp [lexemes, target, operator.fits_token, value.fits_lexeme finite]
  | membership qualifier column kind values =>
    have target := allFit_targetLexemes column known
    have opening : (sign [' ', '[']).Fits names := fits_sign rfl
    have closing : (sign [']']).Fits names := fits_sign rfl
    have quotedValues : AllFit names (commaSeparated (values.map fun value => [.quoted value])) :=
      .commaSeparated (by simp)
    simp [lexemes, target, opening, closing, quotedValues, kind.token_mem_languageWords]
  | modelTest qualifier identifier =>
    refine .call (by decide) ?_
    cases qualifier with
    | none => simp
    | some qualifier =>
      have named : qualifier ≠ "" := fun empty => admissible.self.1 (congrArg some empty)
      have listed : qualifier ∈ names := known qualifier (by simp [aliases, named])
      simp [listed]
  | scalarTest qualifier column function argument =>
    have target := allFit_targetLexemes column known
    refine .call function.token_mem_languageWords (List.forall_mem_cons.mpr ⟨target, ?_⟩)
    cases function.arity <;> simp [argumentLexemes]
  | negation inner induction =>
    have word : "NOT" ∈ languageWords := by decide
    simp [lexemes, word, induction (everywhere_negation.mp admissible).2 known]
  | group connective children induction =>
    have below := (everywhere_group.mp admissible).2
    rw [aliases_group] at known
    have members : ∀ row ∈ children.map lexemes, AllFit names row := by
      rw [List.forall_mem_map]
      intro child member
      apply induction child member (below child member)
      exact fun name referred => known name (List.mem_flatMap.mpr ⟨child, member, referred⟩)
    have between : AllFit names [space, .word connective.token, space] := by
      simp [connective.token_mem_languageWords]
    have opening : (sign ['(']).Fits names := fits_sign rfl
    have closing : (sign [')']).Fits names := fits_sign rfl
    simp [lexemes_group, opening, closing, AllFit.intercalate between members]

end Condition
end TwinGraph
