import TwinGraph.Proofs.Condition.Strings
import TwinGraph.Proofs.Condition.Unambiguous
import TwinGraph.Proofs.Text.Reference

/-!
# The aliases of a condition are the names that its text refers to

The aliases of a condition are collected from the tree, and a service reads them off the text.  The
text is read here from left to right, whatever its literals hold, and what follows a condition never
changes to what the condition refers.
-/

namespace TwinGraph

open Text

theorem Literal.referred_render {literal : Literal} (finite : literal.isFinite = true)
    {rest : List Char} (ends : Ends rest) : referred (literal.render ++ rest) = referred rest := by
  have numeral (numeric : literal.isNumeric = true) :
      referred (literal.render ++ rest) = referred rest :=
    referred_of_numeral (fun _ => isNumeralPart_of_mem_render numeric finite) ends.closes
  cases literal with
  | string value => exact referred_quote value rest
  | integer value => exact numeral rfl
  | float value => exact numeral rfl
  | boolean value => cases value <;> exact referred_of_bland (by decide) ends.closes
  | null => exact referred_of_bland (by decide) ends.closes

namespace Condition

/-- Whether a condition refers to its aliases at the beginning of a text, whatever follows it
there. -/
def Refers (condition : Condition) : Prop :=
  ∀ rest, Ends rest →
    referred (condition.render ++ rest) = (referred rest).map (condition.aliases ++ ·)

section

variable {qualifier column : String}

theorem PlainTarget.referred_qualify (target : PlainTarget qualifier column) {rest : List Char}
    (closes : Closes rest) :
    referred (qualify qualifier column ++ rest) =
      (referred rest).map ([qualifier].filter (· != "") ++ ·) := by
  have bland : Bland column.toList := by
    intro mark member inside
    have part := isColumnPart_of_isColumn target.column inside
    simp only [List.mem_cons, List.not_mem_nil, or_false] at member
    rcases member with rfl | rfl | rfl <;> exact absurd part (by decide)
  have passed := referred_of_bland bland closes
  unfold qualify
  split
  · next empty => simp [empty, passed]
  · next nonempty =>
    have isName := target.qualifier.resolve_left nonempty
    rw [List.append_assoc, List.cons_append, referred_name_point isName, passed]
    simp [nonempty]

theorem refers_comparison {operator : ComparisonOperator} {value : Literal}
    (legible : Legible (comparison qualifier column operator value)) :
    Refers (comparison qualifier column operator value) := by
  intro rest ends
  have target : PlainTarget qualifier column := legible.plain.target rfl rfl
  have token : Bland operator.token.toList := by cases operator <;> decide
  simp only [render, aliases, List.append_assoc, List.cons_append]
  rw [target.referred_qualify (stops_cons.mpr rfl), referred_spaced token,
    Literal.referred_render legible.admissible.self.2 ends]

theorem refers_membership {kind : MembershipKind} {values : List String}
    (legible : Legible (membership qualifier column kind values)) :
    Refers (membership qualifier column kind values) := by
  intro rest _
  have target : PlainTarget qualifier column := legible.plain.target rfl rfl
  have token : Bland kind.token.toList := by cases kind <;> decide
  simp only [render, aliases, List.append_assoc, List.cons_append, List.nil_append]
  rw [target.referred_qualify (stops_cons.mpr rfl), referred_spaced token,
    referred_cons (by decide), referred_quoteList, referred_cons (by decide)]

theorem refers_modelTest {qualifier? : Option String} {identifier : String}
    (legible : Legible (modelTest qualifier? identifier)) :
    Refers (modelTest qualifier? identifier) := by
  intro rest _
  cases qualifier? with
  | none =>
    simp only [render_modelTest_none, aliases, List.append_assoc, List.cons_append,
      List.nil_append]
    rw [referred_modelTest_literal]
    simp
  | some qualifier =>
    have isName := legible.isWord_of_modelTest
    have nonempty : qualifier ≠ "" := by
      rintro rfl
      exact absurd isName (by decide)
    simp only [render_modelTest_some, aliases, List.append_assoc, List.cons_append,
      List.nil_append]
    rw [referred_modelTest_name isName]
    simp [nonempty]

theorem refers_scalarTest {function : ScalarFunction} {argument : Option String}
    (legible : Legible (scalarTest qualifier column function argument)) :
    Refers (scalarTest qualifier column function argument) := by
  intro rest _
  have target : PlainTarget qualifier column := legible.plain.target rfl rfl
  have isName : isWord function.token = true := by cases function <;> decide
  have other : function.token.toList ≠ modelTestName := by cases function <;> decide
  cases arity : function.arity with
  | unary =>
    simp only [render_scalarTest_unary arity, aliases, List.append_assoc, List.cons_append,
      List.nil_append]
    rw [referred_call isName other, target.referred_qualify (stops_cons.mpr rfl),
      referred_cons (by decide)]
  | binary =>
    simp only [render_scalarTest_binary arity, aliases, List.append_assoc, List.cons_append,
      List.nil_append]
    rw [referred_call isName other, target.referred_qualify (stops_cons.mpr rfl),
      referred_cons (by decide), referred_cons (by decide), referred_quote,
      referred_cons (by decide)]

end

theorem referred_renderConnective (connective : Connective) (rest : List Char) :
    referred (renderConnective connective ++ rest) = referred rest := by
  have token : Bland connective.token.toList := by cases connective <;> decide
  simp only [renderConnective, List.append_assoc, List.cons_append, List.nil_append]
  exact referred_spaced token rest

theorem referred_renderMore (connective : Connective) {children : List Condition}
    (refers : ∀ child ∈ children, Refers child) (rest : List Char) :
    referred (renderMore connective children ++ ')' :: rest) =
      (referred rest).map (children.flatMap aliases ++ ·) := by
  induction children with
  | nil =>
    have closed := referred_cons (by decide : isSeparator ')' = true) rest
    simpa [renderMore] using closed
  | cons child children induction =>
    rw [List.forall_mem_cons] at refers
    rw [renderMore_cons, List.append_assoc, List.append_assoc, referred_renderConnective,
      refers.1 _ (ends_renderMore _ _ _), induction refers.2, Option.map_map]
    simp [Function.comp_def]

/-- The induction goes through what stands below a node, and each node adds to the names only what
it refers to itself. -/
theorem refers_of_legible {condition : Condition} (legible : Legible condition) :
    Refers condition := by
  induction condition using induction_on with
  | comparison qualifier column operator value => exact refers_comparison legible
  | membership qualifier column kind values => exact refers_membership legible
  | modelTest qualifier identifier => exact refers_modelTest legible
  | scalarTest qualifier column function argument => exact refers_scalarTest legible
  | negation inner induction =>
    intro rest ends
    rw [render_negation, aliases, List.append_assoc, List.cons_append,
      referred_of_bland (by decide) (stops_cons.mpr rfl), referred_cons (by decide)]
    exact induction legible.inner rest ends
  | group connective children induction =>
    intro rest ends
    obtain ⟨first, others, rfl⟩ := List.exists_cons_of_ne_nil legible.admissible.self
    have each : ∀ child ∈ first :: others, Refers child :=
      fun child member => induction child member (legible.child member)
    rw [List.forall_mem_cons] at each
    rw [render_group_cons, aliases_group, List.cons_append, List.append_assoc, List.append_assoc,
      referred_cons (by decide), List.singleton_append, each.1 _ (ends_renderMore _ _ _),
      referred_renderMore connective each.2, Option.map_map]
    simp [Function.comp_def]

/-- The text of a condition that calls build refers to the aliases that are collected from the
tree, in that order and as often. -/
theorem referred_text {condition : Condition} (built : Built condition)
    (plain : condition.Plain) : referred condition.text.toList = some condition.aliases := by
  have refers := refers_of_legible ⟨plain, built.admissible⟩ [] ends_nil
  rw [List.append_nil] at refers
  rw [toList_text, refers]
  simp [referred, pieces, scan, tokens, references]

/-- Names that only look like references, in strings, in the identifiers of models, among columns
and as a part of a float, and an alias that is called like the test of a model. -/
theorem referred_text_of_decoys :
    let condition := group .conjunction [
      comparison "IS_OF_MODEL" "IS_OF_MODEL" .equal (.string "a.b, IS_OF_MODEL(c, '"),
      negation (group .disjunction [comparison "" "d$e" .lessThan (.float ⟨false, 1022, 0⟩),
        modelTest (some "t") "f.g", modelTest none "IS_OF_MODEL(h, 'i')"]),
      membership "t" "IS_NULL" .among ["j.k", "' OR l.m = "],
      scalarTest "_9" "x" .startsWith (some "n.o"), scalarTest "" "IS_OF_MODEL" .isNull none]
    (Built condition ∧ condition.Plain) ∧
      referred condition.text.toList = some ["IS_OF_MODEL", "t", "t", "_9"] := by
  intro condition
  have built : Built condition := built_iff.mpr (by decide +kernel)
  have plain : condition.Plain := by decide +kernel
  have collected : condition.aliases = ["IS_OF_MODEL", "t", "t", "_9"] := by decide +kernel
  exact ⟨⟨built, plain⟩, collected ▸ referred_text built plain⟩

end Condition
end TwinGraph
