import TwinGraph.Proofs.Condition.Kind
import TwinGraph.Proofs.Condition.Nodes
import TwinGraph.Proofs.Vocabulary

/-!
# The text of a condition is unambiguous

Two conditions with plain names have the same text exactly if they are the same tree as far as a
text shows it.  That is shown for conditions inside longer texts: what follows a condition never
changes how it is read.
-/

namespace TwinGraph

open Text

namespace Condition

mutual

/-- Equality of conditions as far as a text shows it.  It does not show the argument of a function
that takes none, a missing argument apart from an empty one, what follows the first semicolon of a
model, the kind of a number, and the connective of a group with a single child. -/
def Alike : Condition → Condition → Prop
  | comparison qualifier column operator value,
      comparison qualifier' column' operator' value' =>
    qualifier = qualifier' ∧ column = column' ∧ operator = operator' ∧ value.Alike value'
  | membership qualifier column kind values, membership qualifier' column' kind' values' =>
    qualifier = qualifier' ∧ column = column' ∧ kind = kind' ∧ values = values'
  | modelTest qualifier identifier, modelTest qualifier' identifier' =>
    qualifier = qualifier' ∧
      identifier.toList.takeWhile (· != ';') = identifier'.toList.takeWhile (· != ';')
  | scalarTest qualifier column function argument,
      scalarTest qualifier' column' function' argument' =>
    qualifier = qualifier' ∧ column = column' ∧ function = function' ∧
      (function.arity = .binary → argument.getD "" = argument'.getD "")
  | negation inner, negation inner' => Alike inner inner'
  | group connective children, group connective' children' =>
    (children.length = 1 ∨ connective = connective') ∧ AlikeEach children children'
  | _, _ => False

/-- Equality of lists of conditions as far as a text shows it, one by one. -/
def AlikeEach : List Condition → List Condition → Prop
  | [], [] => True
  | first :: rest, first' :: rest' => Alike first first' ∧ AlikeEach rest rest'
  | _, _ => False

end

theorem alikeEach_iff {children others : List Condition} :
    AlikeEach children others ↔ List.Forall₂ Alike children others := by
  induction children generalizing others with
  | nil => cases others <;> simp [AlikeEach]
  | cons child children induction => cases others <;> simp [AlikeEach, induction]

theorem Alike.render_eq {left right : Condition} (alike : Alike left right) :
    left.render = right.render := by
  induction left using induction_on generalizing right with
  | comparison qualifier column operator value =>
    cases right <;> simp only [Alike] at alike
    obtain ⟨rfl, rfl, rfl, values⟩ := alike
    rw [render, render, values.render_eq]
  | membership qualifier column kind values =>
    cases right <;> simp only [Alike] at alike
    obtain ⟨rfl, rfl, rfl, rfl⟩ := alike
    rfl
  | modelTest qualifier identifier =>
    cases right <;> simp only [Alike] at alike
    obtain ⟨rfl, names⟩ := alike
    rw [render, render, versionedModel_eq_iff.mpr (modelName_eq_iff.mpr names)]
  | scalarTest qualifier column function argument =>
    cases right <;> simp only [Alike] at alike
    obtain ⟨rfl, rfl, rfl, arguments⟩ := alike
    rw [render, render, renderTest, renderTest]
    cases arity : function.arity with
    | unary => rfl
    | binary => simp only [arguments arity]
  | negation inner induction =>
    cases right <;> simp only [Alike] at alike
    rw [render, render, induction alike]
  | group connective children induction =>
    cases right <;> simp only [Alike] at alike
    next connective' children' =>
    obtain ⟨connectives, each⟩ := alike
    -- A connective stands between two members only, so that of a single member is never written.
    have texts := map_eq_of_forall₂ induction (alikeEach_iff.mp each)
    rw [render_group, render_group, texts]
    rcases connectives with single | rfl
    · have single' : (children'.map render).length = 1 := by
        rw [← texts, List.length_map, single]
      obtain ⟨text, only⟩ := List.length_eq_one_iff.mp single'
      simp [only]
    · rfl

section

variable {qualifier column qualifier' column' : String} {leftRest rightRest : List Char}

theorem comparison_of_append {operator operator' : ComparisonOperator} {value value' : Literal}
    (legible : Legible (comparison qualifier column operator value))
    (legible' : Legible (comparison qualifier' column' operator' value'))
    (leftEnds : Ends leftRest) (rightEnds : Ends rightRest)
    (equal : render (comparison qualifier column operator value) ++ leftRest =
      render (comparison qualifier' column' operator' value') ++ rightRest) :
    Alike (comparison qualifier column operator value)
        (comparison qualifier' column' operator' value') ∧ leftRest = rightRest := by
  simp only [render, List.append_assoc, List.cons_append] at equal
  obtain ⟨⟨rfl, rfl⟩, rests⟩ := PlainTarget.of_append (legible.plain.target rfl rfl)
    (legible'.plain.target rfl rfl) (stops_cons.mpr rfl) (stops_cons.mpr rfl) equal
  obtain ⟨rfl, literals⟩ := token_of_append ComparisonOperator.space_notMem_token
    ComparisonOperator.token_inj (List.tail_eq_of_cons_eq rests)
  obtain ⟨values, rests⟩ := Literal.alike_of_append legible.admissible.self.2
    legible'.admissible.self.2 leftEnds rightEnds literals
  exact ⟨by simp only [Alike, true_and, values], rests⟩

theorem membership_of_append {kind kind' : MembershipKind} {values values' : List String}
    (legible : Legible (membership qualifier column kind values))
    (legible' : Legible (membership qualifier' column' kind' values'))
    (equal : render (membership qualifier column kind values) ++ leftRest =
      render (membership qualifier' column' kind' values') ++ rightRest) :
    Alike (membership qualifier column kind values)
        (membership qualifier' column' kind' values') ∧ leftRest = rightRest := by
  simp only [render, List.append_assoc, List.cons_append, List.nil_append] at equal
  obtain ⟨⟨rfl, rfl⟩, rests⟩ := PlainTarget.of_append (legible.plain.target rfl rfl)
    (legible'.plain.target rfl rfl) (stops_cons.mpr rfl) (stops_cons.mpr rfl) equal
  obtain ⟨rfl, lists⟩ := token_of_append MembershipKind.space_notMem_token
    MembershipKind.token_inj (List.tail_eq_of_cons_eq rests)
  obtain ⟨rfl, afterList⟩ := quoteList_append_inj (List.tail_eq_of_cons_eq lists)
  exact ⟨by simp only [Alike, and_self], afterList⟩

theorem word_append_ne_quote {word value : String} (plain : isWord word = true)
    {after rest : List Char} : word.toList ++ after ≠ quote value ++ rest := by
  intro equal
  unfold isWord at plain
  cases characters : word.toList with
  | nil => simp [characters] at plain
  | cons first others =>
    simp only [characters, Bool.and_eq_true] at plain
    rw [characters] at equal
    obtain rfl : first = '\'' := (List.cons.inj equal).1
    exact absurd plain.1 (by decide)

theorem modelTest_of_append {qualifier qualifier' : Option String} {identifier identifier' : String}
    (legible : Legible (modelTest qualifier identifier))
    (legible' : Legible (modelTest qualifier' identifier'))
    (equal : render (modelTest qualifier identifier) ++ leftRest =
      render (modelTest qualifier' identifier') ++ rightRest) :
    Alike (modelTest qualifier identifier) (modelTest qualifier' identifier') ∧
      leftRest = rightRest := by
  cases qualifier <;> cases qualifier' <;>
    simp only [render_modelTest_none, render_modelTest_some, List.append_assoc, List.cons_append,
      List.append_cancel_left_eq, List.cons.injEq, true_and, List.nil_append] at equal
  case none.none =>
    obtain ⟨models, rests⟩ := quote_append_inj equal
    have names := modelName_eq_iff.mp (versionedModel_eq_iff.mp models)
    exact ⟨by simp only [Alike, true_and, names], List.tail_eq_of_cons_eq rests⟩
  case none.some word =>
    exact absurd equal.symm (word_append_ne_quote legible'.isWord_of_modelTest)
  case some.none word =>
    exact absurd equal (word_append_ne_quote legible.isWord_of_modelTest)
  case some.some word word' =>
    obtain ⟨words, models⟩ := append_inj_of_stops
      (fun _ member => isWordPart_of_isWord legible.isWord_of_modelTest member)
      (fun _ member => isWordPart_of_isWord legible'.isWord_of_modelTest member)
      (stops_cons.mpr rfl) (stops_cons.mpr rfl) equal
    obtain ⟨models, rests⟩ := quote_append_inj
      (List.tail_eq_of_cons_eq (List.tail_eq_of_cons_eq models))
    have names := modelName_eq_iff.mp (versionedModel_eq_iff.mp models)
    exact ⟨by simp only [Alike, String.toList_inj.mp words, names, and_self],
      List.tail_eq_of_cons_eq rests⟩

theorem scalarTest_of_append {function function' : ScalarFunction}
    {argument argument' : Option String}
    (legible : Legible (scalarTest qualifier column function argument))
    (legible' : Legible (scalarTest qualifier' column' function' argument'))
    (equal : render (scalarTest qualifier column function argument) ++ leftRest =
      render (scalarTest qualifier' column' function' argument') ++ rightRest) :
    Alike (scalarTest qualifier column function argument)
        (scalarTest qualifier' column' function' argument') ∧ leftRest = rightRest := by
  obtain ⟨after, shape⟩ := exists_render_scalarTest qualifier column function argument
  obtain ⟨after', shape'⟩ := exists_render_scalarTest qualifier' column' function' argument'
  have calls := equal
  rw [shape, shape', List.append_assoc, List.append_assoc] at calls
  obtain ⟨tokens, -⟩ := append_inj_of_stops (isTargetPart_of_mem_token function)
    (isTargetPart_of_mem_token function') (stops_cons.mpr rfl) (stops_cons.mpr rfl) calls
  obtain rfl := ScalarFunction.token_inj (String.toList_inj.mp tokens)
  cases arity : function.arity with
  | unary =>
    simp only [render_scalarTest_unary arity, List.append_assoc, List.cons_append,
      List.append_cancel_left_eq, List.cons.injEq, true_and, List.nil_append] at equal
    obtain ⟨⟨rfl, rfl⟩, rests⟩ := PlainTarget.of_append (legible.plain.target rfl rfl)
      (legible'.plain.target rfl rfl) (stops_cons.mpr rfl) (stops_cons.mpr rfl) equal
    exact ⟨by simp [Alike, arity], List.tail_eq_of_cons_eq rests⟩
  | binary =>
    simp only [render_scalarTest_binary arity, List.append_assoc, List.cons_append,
      List.append_cancel_left_eq, List.cons.injEq, true_and, List.nil_append] at equal
    obtain ⟨⟨rfl, rfl⟩, quoted⟩ := PlainTarget.of_append (legible.plain.target rfl rfl)
      (legible'.plain.target rfl rfl) (stops_cons.mpr rfl) (stops_cons.mpr rfl) equal
    obtain ⟨arguments, rests⟩ := quote_append_inj
      (List.tail_eq_of_cons_eq (List.tail_eq_of_cons_eq quoted))
    exact ⟨by simp [Alike, arguments], List.tail_eq_of_cons_eq rests⟩

end

theorem ends_renderMore (connective : Connective) (children : List Condition) (rest : List Char) :
    Ends (renderMore connective children ++ ')' :: rest) := by
  cases children with
  | nil => exact ends_cons.mpr (.inr rfl)
  | cons first others =>
    rw [renderMore_cons]
    exact ends_cons.mpr (.inl rfl)

theorem renderConnective_append_inj {connective connective' : Connective}
    {leftRest rightRest : List Char}
    (equal : renderConnective connective ++ leftRest = renderConnective connective' ++ rightRest) :
    connective = connective' ∧ leftRest = rightRest := by
  cases connective <;> cases connective'
  case conjunction.disjunction | disjunction.conjunction =>
    exact absurd equal (by simp [renderConnective, Connective.token])
  all_goals exact ⟨rfl, List.append_cancel_left equal⟩

/-- Whether a condition can be told from every other one at the beginning of a text, whatever
follows them there. -/
def Separable (condition : Condition) : Prop :=
  ∀ {other : Condition} {leftRest rightRest : List Char}, Legible condition → Legible other →
    Ends leftRest → Ends rightRest → condition.render ++ leftRest = other.render ++ rightRest →
      Alike condition other ∧ leftRest = rightRest

theorem alikeEach_of_renderMore {connective connective' : Connective}
    {children others : List Condition} {leftRest rightRest : List Char}
    (separable : ∀ child ∈ children, Separable child)
    (legible : ∀ child ∈ children, Legible child) (legible' : ∀ other ∈ others, Legible other)
    (equal : renderMore connective children ++ ')' :: leftRest =
      renderMore connective' others ++ ')' :: rightRest) :
    ((children = [] ∨ connective = connective') ∧ AlikeEach children others) ∧
      leftRest = rightRest := by
  induction children generalizing others with
  | nil =>
    cases others with
    | nil => exact ⟨⟨.inl rfl, by rw [AlikeEach]; trivial⟩, List.tail_eq_of_cons_eq equal⟩
    | cons other others =>
      rw [renderMore_cons] at equal
      exact absurd (List.cons.inj equal).1 (by decide)
  | cons child children induction =>
    cases others with
    | nil =>
      rw [renderMore_cons] at equal
      exact absurd (List.cons.inj equal).1 (by decide)
    | cons other others =>
      rw [List.forall_mem_cons] at separable legible legible'
      rw [renderMore_cons, renderMore_cons, List.append_assoc, List.append_assoc,
        List.append_assoc, List.append_assoc] at equal
      obtain ⟨same, members⟩ := renderConnective_append_inj equal
      obtain ⟨firsts, tails⟩ := separable.1 legible.1 legible'.1 (ends_renderMore _ _ _)
        (ends_renderMore _ _ _) members
      obtain ⟨⟨-, more⟩, rests⟩ := induction separable.2 legible.2 legible'.2 tails
      exact ⟨⟨.inr same, by rw [AlikeEach]; exact ⟨firsts, more⟩⟩, rests⟩

theorem group_of_append {connective connective' : Connective} {children others : List Condition}
    {leftRest rightRest : List Char} (separable : ∀ child ∈ children, Separable child)
    (legible : Legible (group connective children)) (legible' : Legible (group connective' others))
    (equal : render (group connective children) ++ leftRest =
      render (group connective' others) ++ rightRest) :
    Alike (group connective children) (group connective' others) ∧ leftRest = rightRest := by
  obtain ⟨first, rest, rfl⟩ := List.exists_cons_of_ne_nil legible.admissible.self
  obtain ⟨first', rest', rfl⟩ := List.exists_cons_of_ne_nil legible'.admissible.self
  have legibleEach : ∀ child ∈ first :: rest, Legible child := fun _ member => legible.child member
  have legibleEach' : ∀ child ∈ first' :: rest', Legible child :=
    fun _ member => legible'.child member
  rw [List.forall_mem_cons] at separable legibleEach legibleEach'
  rw [render_group_cons, render_group_cons] at equal
  simp only [List.cons_append, List.append_assoc, List.nil_append, List.cons.injEq,
    true_and] at equal
  obtain ⟨firsts, tails⟩ := separable.1 legibleEach.1 legibleEach'.1 (ends_renderMore _ _ _)
    (ends_renderMore _ _ _) equal
  obtain ⟨⟨connectives, more⟩, rests⟩ :=
    alikeEach_of_renderMore separable.2 legibleEach.2 legibleEach'.2 tails
  refine ⟨?_, rests⟩
  rw [Alike, AlikeEach]
  refine ⟨?_, firsts, more⟩
  rcases connectives with rfl | same
  · exact .inl rfl
  · exact .inr same

theorem kind_eq_of_append {condition other : Condition} {leftRest rightRest : List Char}
    (legible : Legible condition) (legible' : Legible other)
    (equal : condition.render ++ leftRest = other.render ++ rightRest) :
    condition.kind = other.kind := by
  rw [← readKind_render legible leftRest, equal, readKind_render legible' rightRest]

/-- What the text begins with tells the kind of the first node, so only conditions of one kind
compete for a text, and the induction goes through what stands below a node. -/
theorem separable (condition : Condition) : Separable condition := by
  induction condition using induction_on with
  | comparison qualifier column operator value =>
    intro other leftRest rightRest legible legible' leftEnds rightEnds equal
    have kinds := kind_eq_of_append legible legible' equal
    cases other <;> simp only [kind, reduceCtorEq] at kinds
    exact comparison_of_append legible legible' leftEnds rightEnds equal
  | membership qualifier column membershipKind values =>
    intro other leftRest rightRest legible legible' _ _ equal
    have kinds := kind_eq_of_append legible legible' equal
    cases other <;> simp only [kind, reduceCtorEq] at kinds
    exact membership_of_append legible legible' equal
  | modelTest qualifier identifier =>
    intro other leftRest rightRest legible legible' _ _ equal
    have kinds := kind_eq_of_append legible legible' equal
    cases other <;> simp only [kind, reduceCtorEq] at kinds
    exact modelTest_of_append legible legible' equal
  | scalarTest qualifier column function argument =>
    intro other leftRest rightRest legible legible' _ _ equal
    have kinds := kind_eq_of_append legible legible' equal
    cases other <;> simp only [kind, reduceCtorEq] at kinds
    exact scalarTest_of_append legible legible' equal
  | negation inner induction =>
    intro other leftRest rightRest legible legible' leftEnds rightEnds equal
    have kinds := kind_eq_of_append legible legible' equal
    cases other <;> simp only [kind, reduceCtorEq] at kinds
    rw [render_negation, render_negation] at equal
    simp only [List.append_assoc, List.append_cancel_left_eq, List.cons_append, List.cons.injEq,
      true_and] at equal
    obtain ⟨inners, rests⟩ := induction legible.inner legible'.inner leftEnds rightEnds equal
    exact ⟨by rw [Alike]; exact inners, rests⟩
  | group connective children induction =>
    intro other leftRest rightRest legible legible' _ _ equal
    have kinds := kind_eq_of_append legible legible' equal
    cases other <;> simp only [kind, reduceCtorEq] at kinds
    exact group_of_append induction legible legible' equal

/-- Two conditions that calls build have one text exactly if they are alike. -/
theorem text_eq_iff_alike {left right : Condition} (leftBuilt : Built left)
    (rightBuilt : Built right) (leftPlain : left.Plain) (rightPlain : right.Plain) :
    left.text = right.text ↔ Alike left right := by
  rw [text_inj]
  constructor
  · intro equal
    have leftLegible : Legible left := ⟨leftPlain, leftBuilt.admissible⟩
    have rightLegible : Legible right := ⟨rightPlain, rightBuilt.admissible⟩
    have texts : left.render ++ [] = right.render ++ [] := by rw [equal]
    exact (separable left leftLegible rightLegible ends_nil ends_nil texts).1
  · exact Alike.render_eq

/-- The five differences that a text does not show, among columns that are called like words of
the query language and strings that look like its texts. -/
theorem text_eq_of_alike_groups :
    let quoted := comparison "t" "NOT" .equal (.string "' AND (\\")
    let left := group .disjunction [quoted, negation (group .conjunction [
      scalarTest "" "IN" .isNull (some "x'"), scalarTest "t" "$a" .startsWith none,
      group .conjunction [modelTest (some "t") "m;2"],
      comparison "" "_1" .lessThan (.integer 1)])]
    let right := group .disjunction [quoted, negation (group .conjunction [
      scalarTest "" "IN" .isNull none, scalarTest "t" "$a" .startsWith (some ""),
      group .disjunction [modelTest (some "t") "m;3;x"],
      comparison "" "_1" .lessThan (.float ⟨false, 1023, 0⟩)])]
    (Built left ∧ Built right) ∧ (left.Plain ∧ right.Plain) ∧ left.text = right.text := by
  intro quoted left right
  have leftBuilt : Built left := built_iff.mpr (by decide +kernel)
  have rightBuilt : Built right := built_iff.mpr (by decide +kernel)
  have leftPlain : left.Plain := by decide +kernel
  have rightPlain : right.Plain := by decide +kernel
  have strings : Literal.Alike (.string "' AND (\\") (.string "' AND (\\") := .inl rfl
  have numerals : Literal.Alike (.integer 1) (.float ⟨false, 1023, 0⟩) :=
    .inr ⟨rfl, rfl, by decide +kernel⟩
  have alike : Alike left right := by
    simp [left, right, quoted, Alike, AlikeEach, strings, numerals, ScalarFunction.arity]
  exact ⟨⟨leftBuilt, rightBuilt⟩, ⟨leftPlain, rightPlain⟩,
    (text_eq_iff_alike leftBuilt rightBuilt leftPlain rightPlain).mpr alike⟩

end Condition
end TwinGraph
