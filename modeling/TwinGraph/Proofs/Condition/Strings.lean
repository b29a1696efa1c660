import TwinGraph.Proofs.Condition.Calls
import TwinGraph.Proofs.Condition.Nodes
import TwinGraph.Proofs.Condition.Rendering
import TwinGraph.Proofs.Literal
import TwinGraph.Proofs.Text.Reading
import TwinGraph.Proofs.Vocabulary

/-!
# Strings stay inside their literals

Whatever the string values of a condition are, a reading of its text comes upon them one by one and
upon no other literal.  What stands outside the literals is the frame of the condition, in which no
string has a part.
-/

namespace TwinGraph

open Text

namespace Literal

/-- The string that a literal quotes, if it is one. -/
def quoted? : Literal → Option String
  | string value => some value
  | _ => none

/-- The text of a literal without what stands in quotes. -/
def frame : Literal → List Char
  | string _ => []
  | literal => literal.render

theorem quote_notMem_render {literal : Literal} (unquoted : literal.isString = false)
    (finite : literal.isFinite = true) : '\'' ∉ literal.render :=
  fun member => absurd (isBarePart_of_mem_render unquoted finite member) (by decide)

theorem reads_render {literal : Literal} (finite : literal.isFinite = true) :
    Reads literal.render (literal.quoted?.toList.map String.toList) literal.frame := by
  cases literal with
  | string value => exact reads_quote value
  | integer value => exact .of_quoteless (quote_notMem_render rfl finite)
  | float value => exact .of_quoteless (quote_notMem_render rfl finite)
  | boolean value => exact .of_quoteless (quote_notMem_render rfl finite)
  | null => exact .of_quoteless (quote_notMem_render rfl finite)

end Literal

namespace Condition

/-- The strings that a node quotes by itself, a missing argument as an empty one. -/
def ownStrings : Condition → List String
  | comparison _ _ _ value => value.quoted?.toList
  | membership _ _ _ values => values
  | modelTest _ identifier => [versionedModel identifier]
  | scalarTest _ _ function argument =>
    match function.arity with
    | .unary => []
    | .binary => [argument.getD ""]
  | negation _ | group _ _ => []

/-- The strings that a condition quotes, from left to right. -/
def strings (condition : Condition) : List String :=
  condition.nodes.flatMap ownStrings

mutual

/-- The text of a condition without what stands in quotes. -/
def frame : Condition → List Char
  | comparison qualifier column operator value =>
    qualify qualifier column ++ ' ' :: (operator.token.toList ++ ' ' :: value.frame)
  | membership qualifier column kind values =>
    qualify qualifier column ++ ' ' :: (kind.token.toList ++
      ' ' :: '[' :: (commaSeparated (values.map fun _ => []) ++ [']']))
  | modelTest qualifier _ => renderCall "IS_OF_MODEL" (qualifier.toList.map String.toList ++ [[]])
  | scalarTest qualifier column function _ =>
    match function.arity with
    | .unary => renderCall function.token [qualify qualifier column]
    | .binary => renderCall function.token [qualify qualifier column, []]
  | negation inner => "NOT ".toList ++ frame inner
  | group connective children =>
    '(' :: ((renderConnective connective).intercalate (frameEach children) ++ [')'])

/-- The texts of conditions without what stands in quotes. -/
def frameEach : List Condition → List (List Char)
  | [] => []
  | first :: rest => frame first :: frameEach rest

end

theorem toList_text (condition : Condition) : condition.text.toList = condition.render := by
  rw [text, String.toList_ofList]

theorem frameEach_eq (conditions : List Condition) :
    frameEach conditions = conditions.map frame := by
  induction conditions with
  | nil => rfl
  | cons first rest induction => simp [frameEach, induction]

theorem frame_group (connective : Connective) (children : List Condition) :
    frame (group connective children) =
      '(' :: ((renderConnective connective).intercalate (children.map frame) ++ [')']) := by
  rw [frame, frameEach_eq]

theorem frame_modelTest_none (identifier : String) :
    frame (modelTest none identifier) = "IS_OF_MODEL".toList ++ '(' :: [')'] := by
  simp only [frame, renderCall, Option.toList_none, List.map_nil, List.nil_append,
    commaSeparated_singleton]

theorem frame_modelTest_some (qualifier identifier : String) :
    frame (modelTest (some qualifier) identifier) =
      "IS_OF_MODEL".toList ++ '(' :: (qualifier.toList ++ ',' :: ' ' :: [')']) := by
  simp only [frame, renderCall, Option.toList_some, List.map_cons, List.map_nil,
    List.cons_append, List.nil_append, commaSeparated_cons_cons, commaSeparated_singleton,
    List.append_assoc]

section

variable {qualifier column : String}

theorem frame_scalarTest_unary {function : ScalarFunction} {argument : Option String}
    (unary : function.arity = .unary) :
    frame (scalarTest qualifier column function argument) =
      function.token.toList ++ '(' :: (qualify qualifier column ++ [')']) := by
  simp only [frame, unary, renderCall, commaSeparated_singleton]

theorem frame_scalarTest_binary {function : ScalarFunction} {argument : Option String}
    (binary : function.arity = .binary) :
    frame (scalarTest qualifier column function argument) =
      function.token.toList ++ '(' :: (qualify qualifier column ++ ',' :: ' ' :: [')']) := by
  simp only [frame, binary, renderCall, commaSeparated_cons_cons, commaSeparated_singleton,
    List.append_assoc, List.cons_append, List.nil_append]

theorem strings_comparison {operator : ComparisonOperator} {value : Literal} :
    (comparison qualifier column operator value).strings = value.quoted?.toList := by
  simp [strings, nodes, ownStrings]

theorem strings_membership {kind : MembershipKind} {values : List String} :
    (membership qualifier column kind values).strings = values := by
  simp [strings, nodes, ownStrings]

theorem strings_modelTest {qualifier : Option String} {identifier : String} :
    (modelTest qualifier identifier).strings = [versionedModel identifier] := by
  simp [strings, nodes, ownStrings]

theorem strings_scalarTest {function : ScalarFunction} {argument : Option String} :
    (scalarTest qualifier column function argument).strings =
      match function.arity with
      | .unary => []
      | .binary => [argument.getD ""] := by
  simp [strings, nodes, ownStrings]

theorem strings_negation {inner : Condition} : (negation inner).strings = inner.strings := by
  simp [strings, nodes, ownStrings]

theorem strings_group {connective : Connective} {children : List Condition} :
    (group connective children).strings = children.flatMap strings := by
  simp only [strings, nodes, nodesOfEach_eq, List.flatMap_cons, ownStrings, List.nil_append,
    List.flatMap_assoc]
  rfl

end

/-- Whether no name of a condition holds a quote. -/
def Quoteless : Condition → Prop :=
  Named (fun qualifier => '\'' ∉ qualifier.toList) fun column => '\'' ∉ column.toList

instance : DecidablePred Quoteless :=
  fun condition => inferInstanceAs (Decidable (Named _ _ condition))

theorem quote_notMem_qualify {qualifier column : String} (quoteless : '\'' ∉ qualifier.toList)
    (quotelessColumn : '\'' ∉ column.toList) : '\'' ∉ qualify qualifier column := by
  unfold qualify
  split <;> simp [quoteless, quotelessColumn]

section

variable {qualifier column : String}

theorem quote_notMem_target {condition : Condition} (quoteless : condition.Quoteless)
    (qualified : condition.qualifier? = some qualifier) (named : condition.column? = some column) :
    '\'' ∉ qualify qualifier column :=
  quote_notMem_qualify (quoteless.self.1 qualifier qualified) (quoteless.self.2 column named)

theorem reads_comparison {operator : ComparisonOperator} {value : Literal}
    (target : '\'' ∉ qualify qualifier column) (finite : value.isFinite = true) :
    Reads (comparison qualifier column operator value).render
      ((comparison qualifier column operator value).strings.map String.toList)
      (comparison qualifier column operator value).frame := by
  rw [render, frame, strings_comparison]
  have fromOperator := ((Literal.reads_render finite).cons (by decide : ' ' ≠ '\'')).after_quoteless
    operator.quote_notMem_token
  exact (fromOperator.cons (by decide)).after_quoteless target

theorem reads_membership {kind : MembershipKind} {values : List String}
    (target : '\'' ∉ qualify qualifier column) :
    Reads (membership qualifier column kind values).render
      ((membership qualifier column kind values).strings.map String.toList)
      (membership qualifier column kind values).frame := by
  rw [render, frame, strings_membership]
  have list := (reads_quoteList values).before_quoteless (by decide : '\'' ∉ [']'])
  have bracketed := (list.cons (by decide : '[' ≠ '\'')).cons (by decide : ' ' ≠ '\'')
  have fromKind := bracketed.after_quoteless kind.quote_notMem_token
  exact (fromKind.cons (by decide)).after_quoteless target

theorem reads_modelTest {qualifier? : Option String} {identifier : String}
    (quoteless : ∀ qualifier ∈ qualifier?, '\'' ∉ qualifier.toList) :
    Reads (modelTest qualifier? identifier).render
      ((modelTest qualifier? identifier).strings.map String.toList)
      (modelTest qualifier? identifier).frame := by
  have value := (reads_quote (versionedModel identifier)).before_quoteless
    (by decide : '\'' ∉ [')'])
  rw [strings_modelTest]
  cases qualifier? with
  | none =>
    rw [render_modelTest_none, frame_modelTest_none]
    exact (value.cons (by decide)).after_quoteless (by decide)
  | some qualifier =>
    rw [render_modelTest_some, frame_modelTest_some]
    have second := (value.cons (by decide : ' ' ≠ '\'')).cons (by decide : ',' ≠ '\'')
    have both := second.after_quoteless (quoteless qualifier rfl)
    exact (both.cons (by decide)).after_quoteless (by decide)

theorem reads_scalarTest {function : ScalarFunction} {argument : Option String}
    (target : '\'' ∉ qualify qualifier column) :
    Reads (scalarTest qualifier column function argument).render
      ((scalarTest qualifier column function argument).strings.map String.toList)
      (scalarTest qualifier column function argument).frame := by
  rw [strings_scalarTest]
  cases arity : function.arity with
  | unary =>
    rw [render_scalarTest_unary arity, frame_scalarTest_unary arity]
    have only := (Reads.of_quoteless (by decide : '\'' ∉ [')'])).after_quoteless target
    exact (only.cons (by decide)).after_quoteless function.quote_notMem_token
  | binary =>
    rw [render_scalarTest_binary arity, frame_scalarTest_binary arity]
    have value := (reads_quote (argument.getD "")).before_quoteless (by decide : '\'' ∉ [')'])
    have second := (value.cons (by decide : ' ' ≠ '\'')).cons (by decide : ',' ≠ '\'')
    have both := second.after_quoteless target
    exact (both.cons (by decide)).after_quoteless function.quote_notMem_token

end

/-- What is read in a condition are its strings, and its frame outside them. -/
theorem reads_render {condition : Condition} (quoteless : condition.Quoteless)
    (admissible : condition.Everywhere Admissible) :
    Reads condition.render (condition.strings.map String.toList) condition.frame := by
  induction condition using induction_on with
  | comparison qualifier column operator value =>
    exact reads_comparison (quote_notMem_target quoteless rfl rfl) admissible.self.2
  | membership qualifier column kind values =>
    exact reads_membership (quote_notMem_target quoteless rfl rfl)
  | modelTest qualifier identifier =>
    exact reads_modelTest quoteless.self.1
  | scalarTest qualifier column function argument =>
    exact reads_scalarTest (quote_notMem_target quoteless rfl rfl)
  | negation inner induction =>
    have inside := induction (everywhere_negation.mp quoteless).2
      (everywhere_negation.mp admissible).2
    rw [render, frame, strings_negation]
    exact inside.after_quoteless (by decide)
  | group connective children induction =>
    have separator : '\'' ∉ renderConnective connective := by cases connective <;> decide
    have members := reads_intercalate separator fun child member =>
      induction child member ((everywhere_group.mp quoteless).2 child member)
        ((everywhere_group.mp admissible).2 child member)
    rw [render_group, frame_group, strings_group, List.map_flatMap]
    exact (members.before_quoteless (by decide)).cons (by decide)

mutual

/-- Equality of trees but for the strings that they quote; lists of values have one length. -/
def Reworded : Condition → Condition → Prop
  | comparison qualifier column operator value,
      comparison qualifier' column' operator' value' =>
    qualifier = qualifier' ∧ column = column' ∧ operator = operator' ∧
      (value = value' ∨ value.isString = true ∧ value'.isString = true)
  | membership qualifier column kind values, membership qualifier' column' kind' values' =>
    qualifier = qualifier' ∧ column = column' ∧ kind = kind' ∧ values.length = values'.length
  | modelTest qualifier _, modelTest qualifier' _ => qualifier = qualifier'
  | scalarTest qualifier column function argument,
      scalarTest qualifier' column' function' argument' =>
    qualifier = qualifier' ∧ column = column' ∧ function = function' ∧
      (function.arity = .unary → argument = argument')
  | negation inner, negation inner' => Reworded inner inner'
  | group connective children, group connective' children' =>
    connective = connective' ∧ RewordedEach children children'
  | _, _ => False

/-- Equality of lists of trees but for the strings that they quote, one by one. -/
def RewordedEach : List Condition → List Condition → Prop
  | [], [] => True
  | first :: rest, first' :: rest' => Reworded first first' ∧ RewordedEach rest rest'
  | _, _ => False

end

theorem rewordedEach_iff {children others : List Condition} :
    RewordedEach children others ↔ List.Forall₂ Reworded children others := by
  induction children generalizing others with
  | nil => cases others <;> simp [RewordedEach]
  | cons child children induction => cases others <;> simp [RewordedEach, induction]

namespace Reworded

/-- No string has a part in the frame. -/
theorem frame_eq {left right : Condition} (reworded : Reworded left right) :
    left.frame = right.frame := by
  induction left using induction_on generalizing right with
  | comparison qualifier column operator value =>
    cases right <;> simp only [Reworded] at reworded
    obtain ⟨rfl, rfl, rfl, rfl | ⟨isString, isString'⟩⟩ := reworded
    · rfl
    · obtain ⟨value, rfl⟩ := Literal.isString_iff.mp isString
      obtain ⟨value', rfl⟩ := Literal.isString_iff.mp isString'
      rfl
  | membership qualifier column kind values =>
    cases right <;> simp only [Reworded] at reworded
    obtain ⟨rfl, rfl, rfl, lengths⟩ := reworded
    rw [frame, frame, List.map_const', List.map_const', lengths]
  | modelTest qualifier identifier =>
    cases right <;> simp only [Reworded] at reworded
    rw [reworded, frame, frame]
  | scalarTest qualifier column function argument =>
    cases right <;> simp only [Reworded] at reworded
    obtain ⟨rfl, rfl, rfl, -⟩ := reworded
    rw [frame, frame]
  | negation inner induction =>
    cases right <;> simp only [Reworded] at reworded
    rw [frame, frame, induction reworded]
  | group connective children induction =>
    cases right <;> simp only [Reworded] at reworded
    obtain ⟨rfl, each⟩ := reworded
    rw [frame_group, frame_group, map_eq_of_forall₂ induction (rewordedEach_iff.mp each)]

theorem quoteless {left right : Condition} (reworded : Reworded left right)
    (plain : left.Quoteless) : right.Quoteless := by
  induction left using induction_on generalizing right with
  | comparison qualifier column operator value =>
    cases right <;> simp only [Reworded] at reworded
    obtain ⟨rfl, rfl, -⟩ := reworded
    exact everywhere_comparison.mpr (everywhere_comparison.mp plain)
  | membership qualifier column kind values =>
    cases right <;> simp only [Reworded] at reworded
    obtain ⟨rfl, rfl, -⟩ := reworded
    exact everywhere_membership.mpr (everywhere_membership.mp plain)
  | modelTest qualifier identifier =>
    cases right <;> simp only [Reworded] at reworded
    rw [← reworded]
    exact everywhere_modelTest.mpr (everywhere_modelTest.mp plain)
  | scalarTest qualifier column function argument =>
    cases right <;> simp only [Reworded] at reworded
    obtain ⟨rfl, rfl, -⟩ := reworded
    exact everywhere_scalarTest.mpr (everywhere_scalarTest.mp plain)
  | negation inner induction =>
    cases right <;> simp only [Reworded] at reworded
    obtain ⟨named, inside⟩ := everywhere_negation.mp plain
    exact everywhere_negation.mpr ⟨named, induction reworded inside⟩
  | group connective children induction =>
    cases right <;> simp only [Reworded] at reworded
    obtain ⟨rfl, each⟩ := reworded
    obtain ⟨named, inside⟩ := everywhere_group.mp plain
    have others := forall_of_forall₂ induction (rewordedEach_iff.mp each) inside
    exact everywhere_group.mpr ⟨named, others⟩

end Reworded

/-- The literals of a text are the strings of the condition, whatever they are, and no choice of
them changes what stands outside the literals. -/
theorem literals_and_outside {condition : Condition} (built : Built condition)
    (quoteless : condition.Quoteless) :
    literals condition.text.toList = some (condition.strings.map String.toList) ∧
      outside condition.text.toList = some condition.frame ∧
        ∀ other, Built other → Reworded condition other →
          literals other.text.toList = some (other.strings.map String.toList) ∧
            outside other.text.toList = some condition.frame := by
  have reads := reads_render quoteless built.admissible
  rw [toList_text]
  refine ⟨reads.literals_eq, reads.outside_eq, fun other otherBuilt reworded => ?_⟩
  have otherReads := reads_render (reworded.quoteless quoteless) otherBuilt.admissible
  rw [toList_text, reworded.frame_eq]
  exact ⟨otherReads.literals_eq, otherReads.outside_eq⟩

/-- Strings that try to leave their literals, one in each place where a text has strings, and
harmless ones in their stead. -/
theorem literals_and_outside_hostile :
    let condition := group .conjunction [comparison "t" "name" .equal (.string "' OR 1 = 1 \\"),
      negation (membership "" "tag" .among ["', '", "\\'"]), scalarTest "" "x" .startsWith none,
      modelTest (some "t") "a');3"]
    let other := group .conjunction [comparison "t" "name" .equal (.string ""),
      negation (membership "" "tag" .among ["red", "blue"]),
      scalarTest "" "x" .startsWith (some "y"), modelTest (some "t") "room"]
    Built condition ∧ condition.Quoteless ∧ Built other ∧ Reworded condition other ∧
      literals condition.text.toList =
        some (["' OR 1 = 1 \\", "', '", "\\'", "", "a');1"].map String.toList) ∧
      outside other.text.toList = outside condition.text.toList := by
  intro condition other
  have built : Built condition := built_iff.mpr (by decide +kernel)
  have otherBuilt : Built other := built_iff.mpr (by decide +kernel)
  have quoteless : condition.Quoteless := by decide +kernel
  have reworded : Reworded condition other := by
    simp [condition, other, Reworded, RewordedEach, Literal.isString, ScalarFunction.arity]
  obtain ⟨literals, frame, others⟩ := literals_and_outside built quoteless
  have strings : condition.strings = ["' OR 1 = 1 \\", "', '", "\\'", "", "a');1"] := by
    decide +kernel
  rw [strings] at literals
  refine ⟨built, quoteless, otherBuilt, reworded, literals, ?_⟩
  rw [frame, (others other otherBuilt reworded).2]

end Condition
end TwinGraph
