import TwinGraph.Alias
import TwinGraph.Proofs.Text.Boundary

/-!
# Words, aliases and tokens inside texts

A word holds none of the characters that a text puts between words, and an alias is none of the
words of the query language, so both can be told from what stands beside them.  Two words of one
kind never share a token, and no token holds a space or a quote.  So a word of the query language
can be told from a text in which a space follows its token.
-/

namespace TwinGraph

namespace Text

variable {word : String}

theorem isWordPart_of_isWord (plain : isWord word = true) {character : Char}
    (member : character ∈ word.toList) : isWordPart character = true := by
  unfold isWord at plain
  cases characters : word.toList with
  | nil => simp [characters] at member
  | cons first rest =>
    simp only [characters, Bool.and_eq_true, List.all_eq_true, List.mem_cons] at plain member
    rcases member with rfl | inside
    · exact isWordPart_of_isWordStart plain.1
    · exact plain.2 character inside

theorem notMem_of_isWord (plain : isWord word = true) {separator : Char}
    (other : isWordPart separator = false) : separator ∉ word.toList := by
  intro member
  rw [isWordPart_of_isWord plain member] at other
  cases other

/-- A word is its own part before the first point. -/
theorem firstPart_of_isWord (plain : isWord word = true) : firstPart '.' word = word := by
  have pointless := bne_of_notMem (notMem_of_isWord plain (by decide : isWordPart '.' = false))
  have kept := takeWhile_append_of_stops pointless stops_nil
  rw [List.append_nil, ← toList_firstPart] at kept
  exact String.toList_inj.mp kept

end Text

namespace IsAlias

variable {name : String}

theorem isWordPart_of_mem (usable : IsAlias name) {character : Char}
    (member : character ∈ name.toList) : Text.isWordPart character = true :=
  Text.isWordPart_of_isWord usable.1 member

theorem notMem (usable : IsAlias name) {separator : Char}
    (other : Text.isWordPart separator = false) : separator ∉ name.toList :=
  Text.notMem_of_isWord usable.1 other

theorem toList_ne (usable : IsAlias name) {word : String} (reserved : isReserved word = true) :
    name.toList ≠ word.toList := by
  intro equal
  have notReserved := usable.2
  rw [String.toList_inj.mp equal, reserved] at notReserved
  cases notReserved

end IsAlias

/-- A word is read off a text up to the space after its token. -/
theorem token_of_append {α : Type} {token : α → String}
    (whole : ∀ word, ' ' ∉ (token word).toList)
    (token_inj : ∀ {word other}, token word = token other → word = other) {word other : α}
    {rest rest' : List Char}
    (equal : (token word).toList ++ ' ' :: rest = (token other).toList ++ ' ' :: rest') :
    word = other ∧ rest = rest' := by
  obtain ⟨tokens, rests⟩ := Text.append_cons_inj (whole word) (whole other) equal
  exact ⟨token_inj (String.toList_inj.mp tokens), rests⟩

namespace Collection

theorem space_notMem_token (collection : Collection) : ' ' ∉ collection.token.toList := by
  cases collection <;> decide

theorem token_inj {collection other : Collection} (equal : collection.token = other.token) :
    collection = other := by
  cases collection <;> cases other <;> revert equal <;> decide

end Collection

namespace ComparisonOperator

theorem space_notMem_token (operator : ComparisonOperator) : ' ' ∉ operator.token.toList := by
  cases operator <;> decide

theorem quote_notMem_token (operator : ComparisonOperator) : '\'' ∉ operator.token.toList := by
  cases operator <;> decide

theorem token_inj {operator other : ComparisonOperator} (equal : operator.token = other.token) :
    operator = other := by
  cases operator <;> cases other <;> revert equal <;> decide

end ComparisonOperator

namespace MembershipKind

theorem space_notMem_token (kind : MembershipKind) : ' ' ∉ kind.token.toList := by
  cases kind <;> decide

theorem quote_notMem_token (kind : MembershipKind) : '\'' ∉ kind.token.toList := by
  cases kind <;> decide

theorem token_inj {kind other : MembershipKind} (equal : kind.token = other.token) :
    kind = other := by
  cases kind <;> cases other <;> revert equal <;> decide

end MembershipKind

namespace ScalarFunction

theorem quote_notMem_token (function : ScalarFunction) : '\'' ∉ function.token.toList := by
  cases function <;> decide

theorem token_inj {function other : ScalarFunction} (equal : function.token = other.token) :
    function = other := by
  cases function <;> cases other <;> revert equal <;> decide

end ScalarFunction

end TwinGraph
