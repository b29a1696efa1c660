import TwinGraph.Proofs.Condition.Names
import TwinGraph.Proofs.Condition.Rendering
import TwinGraph.Proofs.Literal

/-!
# The kind of a node in its text

The first word of a text and the characters after it tell which kind of node was written, also
where a column is called like a word of the query language.
-/

namespace TwinGraph

open Text

/-- The kinds of nodes. -/
inductive NodeKind where
  | comparison
  | membership
  | modelTest
  | scalarTest
  | negation
  | group
  deriving DecidableEq

namespace Condition

/-- The kind of the first node of a condition. -/
def kind : Condition → NodeKind
  | comparison .. => .comparison
  | membership .. => .membership
  | modelTest .. => .modelTest
  | scalarTest .. => .scalarTest
  | negation _ => .negation
  | group .. => .group

/-- A character with which a comparison operator begins. -/
def isSign (character : Char) : Bool :=
  ['=', '!', '<', '>'].contains character

/-- The kind of node that a text after a first word and a space belongs to: an operator follows in
a comparison, a word and a bracket in a membership, and a whole condition in a negation. -/
def kindAfterSpace (after : List Char) : NodeKind :=
  if after.head?.any isSign then .comparison
  else if (after.dropWhile isTargetPart).take 2 = [' ', '['] then .membership
  else .negation

/-- The kind of node that a text begins with. -/
def readKind (text : List Char) : NodeKind :=
  match text.dropWhile isTargetPart with
  | '(' :: _ =>
    let name := text.takeWhile isTargetPart
    if name = [] then .group
    else if name = "IS_OF_MODEL".toList then .modelTest
    else .scalarTest
  | rest => kindAfterSpace rest.tail

/-- A condition whose text can be read back. -/
structure Legible (condition : Condition) : Prop where
  plain : condition.Plain
  admissible : condition.Everywhere Admissible

namespace Legible

theorem isWord_of_modelTest {qualifier identifier : String}
    (legible : Legible (modelTest (some qualifier) identifier)) : isWord qualifier = true := by
  have nonempty : qualifier ≠ "" := fun empty => legible.admissible.self.1 (by rw [empty])
  exact (legible.plain.self.1 qualifier rfl).resolve_left nonempty

theorem inner {condition : Condition} (legible : Legible (negation condition)) :
    Legible condition where
  plain := (everywhere_negation.mp legible.plain).2
  admissible := (everywhere_negation.mp legible.admissible).2

theorem child {connective : Connective} {children : List Condition}
    (legible : Legible (group connective children)) {condition : Condition}
    (member : condition ∈ children) : Legible condition where
  plain := (everywhere_group.mp legible.plain).2 condition member
  admissible := (everywhere_group.mp legible.admissible).2 condition member

end Legible

/-- The text of a legible condition begins with a name or a parenthesis. -/
theorem exists_head_render {condition : Condition} (legible : condition.Legible) :
    ∃ first rest, condition.render = first :: rest ∧ (isTargetPart first = true ∨ first = '(') := by
  have begins {qualifier column : String} (after : List Char)
      (target : PlainTarget qualifier column) :
      ∃ first rest, qualify qualifier column ++ after = first :: rest ∧
        (isTargetPart first = true ∨ first = '(') := by
    obtain ⟨first, rest, shape⟩ := List.exists_cons_of_ne_nil target.qualify_ne_nil
    refine ⟨first, rest ++ after, by rw [shape, List.cons_append], .inl ?_⟩
    exact target.isTargetPart_of_mem first (shape ▸ List.mem_cons_self)
  cases condition with
  | comparison qualifier column operator value =>
    rw [render]
    exact begins _ (legible.plain.target rfl rfl)
  | membership qualifier column kind values =>
    rw [render]
    exact begins _ (legible.plain.target rfl rfl)
  | modelTest qualifier identifier =>
    rw [render]
    exact ⟨'I', _, rfl, .inl rfl⟩
  | scalarTest qualifier column function argument =>
    rw [render]
    cases function <;> exact ⟨_, _, rfl, .inl rfl⟩
  | negation inner =>
    rw [render]
    exact ⟨'N', _, rfl, .inl rfl⟩
  | group connective children =>
    rw [render]
    exact ⟨'(', _, rfl, .inr rfl⟩

theorem readKind_word_space {word after : List Char}
    (kept : ∀ character ∈ word, isTargetPart character = true) :
    readKind (word ++ ' ' :: after) = kindAfterSpace after := by
  have stops : Stops isTargetPart (' ' :: after) := stops_cons.mpr rfl
  rw [readKind, dropWhile_append_of_stops kept stops]
  rfl

theorem readKind_word_parenthesis {word after : List Char}
    (kept : ∀ character ∈ word, isTargetPart character = true) :
    readKind (word ++ '(' :: after) =
      if word = [] then .group else if word = "IS_OF_MODEL".toList then .modelTest
      else .scalarTest := by
  have stops : Stops isTargetPart ('(' :: after) := stops_cons.mpr rfl
  rw [readKind, dropWhile_append_of_stops kept stops, takeWhile_append_of_stops kept stops]
  rfl

theorem isTargetPart_of_mem_token (function : ScalarFunction) :
    ∀ character ∈ function.token.toList, isTargetPart character = true := by
  rw [← List.all_eq_true]
  cases function <;> decide

theorem isTargetPart_of_mem_name : ∀ character ∈ "IS_OF_MODEL".toList,
    isTargetPart character = true :=
  List.all_eq_true.mp (by decide)

theorem isTargetPart_of_mem_not : ∀ character ∈ "NOT".toList, isTargetPart character = true :=
  List.all_eq_true.mp (by decide)

theorem exists_render_modelTest (qualifier : Option String) (identifier : String) :
    ∃ after, render (modelTest qualifier identifier) = "IS_OF_MODEL".toList ++ '(' :: after := by
  cases qualifier with
  | none => exact ⟨_, render_modelTest_none identifier⟩
  | some qualifier => exact ⟨_, render_modelTest_some qualifier identifier⟩

theorem exists_render_scalarTest (qualifier column : String) (function : ScalarFunction)
    (argument : Option String) :
    ∃ after, render (scalarTest qualifier column function argument) =
      function.token.toList ++ '(' :: after := by
  cases arity : function.arity with
  | unary => exact ⟨_, render_scalarTest_unary arity⟩
  | binary => exact ⟨_, render_scalarTest_binary arity⟩

/-- No condition is written as a word before a space and a bracket, as it follows the name of a
column that is called `NOT`. -/
theorem take_dropWhile_render {condition : Condition} (legible : condition.Legible)
    (rest : List Char) :
    ((condition.render ++ rest).dropWhile isTargetPart).take 2 ≠ [' ', '['] := by
  have afterWord {word : List Char} (kept : ∀ character ∈ word, isTargetPart character = true)
      {first : Char} {after : List Char} (stop : isTargetPart first = false) :
      (word ++ first :: after).dropWhile isTargetPart = first :: after :=
    dropWhile_append_of_stops kept (stops_cons.mpr stop)
  cases condition with
  | comparison qualifier column operator value =>
    have target : PlainTarget qualifier column := legible.plain.target rfl rfl
    rw [render, List.append_assoc, List.cons_append, afterWord target.isTargetPart_of_mem rfl]
    cases operator <;> simp [ComparisonOperator.token]
  | membership qualifier column kind values =>
    have target : PlainTarget qualifier column := legible.plain.target rfl rfl
    rw [render, List.append_assoc, List.cons_append, afterWord target.isTargetPart_of_mem rfl]
    cases kind <;> simp [MembershipKind.token]
  | modelTest qualifier identifier =>
    obtain ⟨after, shape⟩ := exists_render_modelTest qualifier identifier
    rw [shape, List.append_assoc, List.cons_append, afterWord isTargetPart_of_mem_name rfl]
    simp
  | scalarTest qualifier column function argument =>
    obtain ⟨after, shape⟩ := exists_render_scalarTest qualifier column function argument
    rw [shape, List.append_assoc, List.cons_append,
      afterWord (isTargetPart_of_mem_token function) rfl]
    simp
  | negation inner =>
    obtain ⟨first, after, shape, start⟩ := exists_head_render legible.inner
    rw [render_negation, List.append_assoc, List.cons_append,
      afterWord isTargetPart_of_mem_not rfl, shape]
    rintro ⟨⟩
    exact absurd start (by decide)
  | group connective children =>
    rw [render]
    exact fun equal => absurd equal (by simp [isTargetPart, isColumnPart, isWordPart])

theorem isSign_of_start {character : Char}
    (start : isTargetPart character = true ∨ character = '(') : isSign character = false := by
  refine Bool.eq_false_iff.mpr fun signed => ?_
  simp only [isSign, List.contains_eq_mem, decide_eq_true_eq, List.mem_cons, List.not_mem_nil,
    or_false] at signed
  rcases signed with rfl | rfl | rfl | rfl <;> exact absurd start (by decide)

theorem readKind_render {condition : Condition} (legible : condition.Legible) (rest : List Char) :
    readKind (condition.render ++ rest) = condition.kind := by
  cases condition with
  | comparison qualifier column operator value =>
    have target : PlainTarget qualifier column := legible.plain.target rfl rfl
    rw [render, List.append_assoc, List.cons_append, readKind_word_space target.isTargetPart_of_mem]
    cases operator <;> rfl
  | membership qualifier column kind values =>
    have target : PlainTarget qualifier column := legible.plain.target rfl rfl
    rw [render, List.append_assoc, List.cons_append, readKind_word_space target.isTargetPart_of_mem]
    cases kind <;> rfl
  | modelTest qualifier identifier =>
    obtain ⟨after, shape⟩ := exists_render_modelTest qualifier identifier
    rw [shape, List.append_assoc, List.cons_append,
      readKind_word_parenthesis isTargetPart_of_mem_name]
    rfl
  | scalarTest qualifier column function argument =>
    obtain ⟨after, shape⟩ := exists_render_scalarTest qualifier column function argument
    rw [shape, List.append_assoc, List.cons_append,
      readKind_word_parenthesis (isTargetPart_of_mem_token function)]
    cases function <;> rfl
  | negation inner =>
    -- A column may be called `NOT` too, so what follows the word has to tell a negation from it.
    obtain ⟨first, after, shape, start⟩ := exists_head_render legible.inner
    have unsigned : isSign first = false := isSign_of_start start
    rw [render_negation, List.append_assoc, List.cons_append,
      readKind_word_space isTargetPart_of_mem_not, kindAfterSpace,
      if_neg (take_dropWhile_render legible.inner rest), shape]
    simp [unsigned, kind]
  | group connective children =>
    rw [render]
    rfl

end Condition
end TwinGraph
