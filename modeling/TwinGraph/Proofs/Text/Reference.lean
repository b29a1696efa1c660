import TwinGraph.Proofs.Vocabulary
import TwinGraph.Proofs.Literal
import TwinGraph.Proofs.Text.Reading
import TwinGraph.Text.Reference

/-!
# Reading references part by part

A part of a text that is over, or that a space, a comma or a parenthesis closes, refers to the same
names whatever follows it.  So the names that a text refers to are those of its parts, one after the
other, and a part without points and parentheses refers to none.
-/

namespace TwinGraph
namespace Text

section

variable {word : List Char} {rest : List Token}

theorem reference?_of_point :
    reference? word (.sign '.' :: rest) =
      if isWord (String.ofList word) then some (String.ofList word) else none :=
  if_pos rfl

/-- A word that neither a point nor a parenthesis follows is passed over. -/
theorem reference?_of_head (point : rest.head? ≠ some (.sign '.'))
    (parenthesis : rest.head? ≠ some (.sign '(')) : reference? word rest = none := by
  unfold reference?
  split
  · contradiction
  split
  · have noArguments : arguments rest = [] := by
      unfold arguments
      split
      · simp at parenthesis
      · rfl
    rw [firstOfTwo?, noArguments]
  · rfl

/-- A word that begins with a digit is passed over, whatever follows it. -/
theorem reference?_of_not_isWord (noName : isWord (String.ofList word) = false) :
    reference? word rest = none := by
  unfold reference?
  split
  · rw [if_neg (Bool.eq_false_iff.mp noName)]
  split
  · next test =>
    rw [test] at noName
    exact absurd noName (by decide)
  · rfl

end

theorem references_sign (character : Char) (rest : List Token) :
    references (.sign character :: rest) = references rest :=
  rfl

/-- Tokens none of whose words refers to anything, with what follows them, refer to nothing. -/
theorem references_append_of_silent {found more : List Token}
    (silent : ∀ earlier word later, found = earlier ++ .word word :: later →
      reference? word (later ++ more) = none) : references (found ++ more) = references more := by
  induction found with
  | nil => rfl
  | cons token found induction =>
    have others := induction fun earlier word later division =>
      silent (token :: earlier) word later (congrArg (token :: ·) division)
    cases token with
    | word word =>
      rw [List.cons_append, references, silent [] word found rfl, others]
      rfl
    | sign character => exact others
    | literal contents => exact others

theorem references_append_of_nameless {found more : List Token}
    (nameless : ∀ word, .word word ∈ found → isWord (String.ofList word) = false) :
    references (found ++ more) = references more :=
  references_append_of_silent fun _ word _ division =>
    reference?_of_not_isWord (nameless word (by simp [division]))

/-- Tokens among and after which there is neither a point nor a parenthesis refer to nothing. -/
theorem references_append_of_bland {found more : List Token}
    (bland : ∀ mark ∈ ['.', '('], .sign mark ∉ found ∧ more.head? ≠ some (.sign mark)) :
    references (found ++ more) = references more := by
  refine references_append_of_silent fun earlier word later division => ?_
  have head (mark : Char) (member : mark ∈ ['.', '(']) :
      (later ++ more).head? ≠ some (.sign mark) := by
    cases later with
    | nil => exact (bland mark member).2
    | cons token later =>
      rintro ⟨⟩
      exact (bland mark member).1 (by simp [division])
  exact reference?_of_head (head '.' (by simp)) (head '(' (by simp))

section

variable {found more : List Piece}

theorem tokens_bare_of_part {character : Char} (part : isWordPart character = true) :
    tokens (.bare character :: found) = afterPart character (tokens found) :=
  if_pos part

theorem tokens_bare_of_sign {character : Char} (sign : isWordPart character = false) :
    tokens (.bare character :: found) = .sign character :: tokens found :=
  if_neg (Bool.eq_false_iff.mp sign)

theorem tokens_literal (contents : List Char) :
    tokens (.literal contents :: found) = .literal contents :: tokens found :=
  rfl

/-- Whether no part of a word comes next, so that a word before ends. -/
def Breaks (found : List Piece) : Prop :=
  ∀ character, found.head? = some (.bare character) → isWordPart character = false

theorem afterPart_of_breaks (breaks : Breaks found) (character : Char) :
    afterPart character (tokens found) = .word [character] :: tokens found := by
  cases found with
  | nil => rfl
  | cons piece found =>
    cases piece with
    | literal contents => rfl
    | bare next =>
      rw [tokens_bare_of_sign (breaks next rfl)]
      rfl

theorem tokens_append (breaks : Breaks more) :
    tokens (found ++ more) = tokens found ++ tokens more := by
  induction found with
  | nil => rfl
  | cons piece found induction =>
    cases piece with
    | literal contents => exact congrArg (_ :: ·) induction
    | bare character =>
      cases part : isWordPart character with
      | false =>
        rw [List.cons_append, tokens_bare_of_sign part, tokens_bare_of_sign part, induction]
        rfl
      | true =>
        rw [List.cons_append, tokens_bare_of_part part, tokens_bare_of_part part, induction]
        cases tokens found with
        | nil => exact afterPart_of_breaks breaks character
        | cons token others => cases token <;> rfl

/-- A word up to where it breaks is one token. -/
theorem tokens_word {word : List Char} (nonempty : word ≠ [])
    (parts : ∀ character ∈ word, isWordPart character = true) (breaks : Breaks more) :
    tokens (word.map .bare ++ more) = .word word :: tokens more := by
  induction word with
  | nil => contradiction
  | cons character word induction =>
    rw [List.forall_mem_cons] at parts
    rw [List.map_cons, List.cons_append, tokens_bare_of_part parts.1]
    cases word with
    | nil => exact afterPart_of_breaks breaks character
    | cons next word =>
      rw [induction (List.cons_ne_nil _ _) parts.2]
      rfl

theorem mem_afterPart {character : Char} {token : Token} {others : List Token}
    (member : token ∈ afterPart character others) :
    token ∈ others ∨ ∃ more, token = .word (character :: more) := by
  unfold afterPart at member
  split at member
  · rcases List.mem_cons.mp member with rfl | later
    · exact .inr ⟨_, rfl⟩
    · exact .inl (List.mem_cons_of_mem _ later)
  · rcases List.mem_cons.mp member with rfl | later
    · exact .inr ⟨_, rfl⟩
    · exact .inl later

/-- What holds of all tokens: each is a literal, a character of the text or a word that begins with
one. -/
theorem forall_mem_tokens {holds : Token → Prop} (literals : ∀ contents, holds (.literal contents))
    (signs : ∀ character, .bare character ∈ found → holds (.sign character))
    (words : ∀ first more, .bare first ∈ found → isWordPart first = true →
      holds (.word (first :: more))) : ∀ token ∈ tokens found, holds token := by
  induction found with
  | nil => exact nofun
  | cons piece found induction =>
    have others := induction (fun character held => signs character (List.mem_cons_of_mem _ held))
      (fun first more held => words first more (List.mem_cons_of_mem _ held))
    cases piece with
    | literal contents => exact List.forall_mem_cons.mpr ⟨literals contents, others⟩
    | bare first =>
      cases part : isWordPart first with
      | false =>
        rw [tokens_bare_of_sign part]
        exact List.forall_mem_cons.mpr ⟨signs first List.mem_cons_self, others⟩
      | true =>
        rw [tokens_bare_of_part part]
        intro token member
        rcases mem_afterPart member with later | ⟨more, rfl⟩
        · exact others token later
        · exact words first more List.mem_cons_self part

end

/-- What ends a word and is neither a point nor a parenthesis that opens: nothing, or a character
that changes nothing about what stands before it. -/
def Closes (rest : List Char) : Prop :=
  Stops (fun character => isWordPart character || ['.', '(', '\''].contains character) rest

theorem Ends.closes {rest : List Char} (ends : Ends rest) : Closes rest :=
  ends.stops rfl rfl

/-- What is read of a text that closes what stands before it. -/
theorem Closes.head {rest : List Char} (closes : Closes rest) {found : List Piece}
    (read : found ∈ pieces rest) :
    Breaks found ∧ ∀ mark ∈ ['.', '('], (tokens found).head? ≠ some (.sign mark) := by
  cases rest with
  | nil =>
    cases read
    exact ⟨nofun, nofun⟩
  | cons character rest =>
    have closing := stops_cons.mp closes
    simp only [Bool.or_eq_false_iff, List.contains_eq_mem, decide_eq_false_iff_not, List.mem_cons,
      List.not_mem_nil, or_false, not_or] at closing
    obtain ⟨sign, point, parenthesis, ordinary⟩ := closing
    rw [pieces, scan_bare ordinary] at read
    obtain ⟨later, -, rfl⟩ := Option.map_eq_some_iff.mp read
    refine ⟨fun next first => ?_, fun mark member equal => ?_⟩
    · cases first
      exact sign
    · rw [tokens_bare_of_sign sign] at equal
      cases equal
      simp [point, parenthesis] at member

section

variable {text rest : List Char}

theorem referred_append (quoteless : '\'' ∉ text)
    (passed : ∀ found ∈ pieces rest,
      references (tokens (text.map .bare ++ found)) = references (tokens found)) :
    referred (text ++ rest) = referred rest := by
  rw [referred, pieces_append_of_quoteless quoteless, Option.map_map]
  exact Option.map_congr passed

theorem bare_mem_map {character : Char} :
    .bare character ∈ text.map Piece.bare ↔ character ∈ text := by
  simp

/-- Whether a part of a text opens no literal, has no point and calls nothing. -/
def Bland (text : List Char) : Prop :=
  ∀ mark ∈ ['\'', '.', '('], mark ∉ text

instance : DecidablePred Bland :=
  fun text => List.decidableBAll (· ∉ text) ['\'', '.', '(']

/-- A part without quotes, points and parentheses is passed over. -/
theorem referred_of_bland (bland : Bland text) (closes : Closes rest) :
    referred (text ++ rest) = referred rest := by
  refine referred_append (bland '\'' (by simp)) fun found read => ?_
  obtain ⟨breaks, head⟩ := closes.head read
  have signs : ∀ token ∈ tokens (text.map .bare), ∀ mark, token = .sign mark → mark ∈ text :=
    forall_mem_tokens nofun (fun character held mark same => by
      cases same
      exact bare_mem_map.mp held) nofun
  rw [tokens_append breaks]
  refine references_append_of_bland fun mark member => ⟨fun inside => ?_, head mark member⟩
  exact bland mark (List.mem_cons_of_mem _ member) (signs _ inside mark rfl)

theorem isWordStart_of_isNumeralPart {character : Char}
    (numeral : isNumeralPart character = true) : isWordStart character = false := by
  refine Bool.eq_false_iff.mpr fun start => ?_
  have code := toNat_of_isWordStart start
  have value : character.toNat = character.val.toNat := rfl
  have digit : character.isDigit =
      (decide (48 ≤ character.val) && decide (character.val ≤ 57)) := rfl
  simp only [isNumeralPart, digit, Bool.or_eq_true, Bool.and_eq_true, decide_eq_true_eq,
    beq_iff_eq, UInt32.le_iff_toNat_le] at numeral
  rcases numeral with (⟨-, upper⟩ | rfl) | rfl
  · have bound : character.val.toNat ≤ 57 := upper
    omega
  · exact absurd start (by decide)
  · exact absurd start (by decide)

/-- A numeral is passed over, be it that it has a point. -/
theorem referred_of_numeral (numeral : ∀ character ∈ text, isNumeralPart character = true)
    (closes : Closes rest) : referred (text ++ rest) = referred rest := by
  have quoteless : '\'' ∉ text := fun member => absurd (numeral _ member) (by decide)
  refine referred_append quoteless fun found read => ?_
  have nameless : ∀ token ∈ tokens (text.map .bare), ∀ word, token = .word word →
      isWord (String.ofList word) = false :=
    forall_mem_tokens nofun nofun fun first more held part word same => by
      cases same
      have digit := isWordStart_of_isNumeralPart (numeral first (bare_mem_map.mp held))
      simp [isWord, digit]
  rw [tokens_append (closes.head read).1]
  exact references_append_of_nameless fun word member => nameless _ member word rfl

theorem pieces_cons {character : Char} (ordinary : character ≠ '\'') (rest : List Char) :
    pieces (character :: rest) = (pieces rest).map (.bare character :: ·) :=
  scan_bare ordinary rest

theorem pieces_quote (value : String) (rest : List Char) :
    pieces (quote value ++ rest) = (pieces rest).map (.literal value.toList :: ·) :=
  scan_quote value rest

/-- A character outside every word that opens no literal. -/
def isSeparator (character : Char) : Bool :=
  !isWordPart character && character != '\''

theorem referred_cons {character : Char} (separator : isSeparator character = true)
    (rest : List Char) : referred (character :: rest) = referred rest := by
  simp only [isSeparator, Bool.and_eq_true, Bool.not_eq_true', bne_iff_ne] at separator
  obtain ⟨sign, ordinary⟩ := separator
  rw [referred, pieces_cons ordinary, Option.map_map]
  refine Option.map_congr fun found _ => ?_
  rw [Function.comp_apply, tokens_bare_of_sign sign]
  rfl

theorem referred_quote (value : String) (rest : List Char) :
    referred (quote value ++ rest) = referred rest := by
  rw [referred, pieces_quote, Option.map_map]
  rfl

theorem referred_quoteList (values : List String) (rest : List Char) :
    referred (quoteList values ++ rest) = referred rest := by
  have more (others : List String) :
      referred (others.flatMap (',' :: ' ' :: quote ·) ++ rest) = referred rest := by
    induction others with
    | nil => rfl
    | cons value others induction =>
      rw [List.flatMap_cons, List.append_assoc, List.cons_append, List.cons_append,
        referred_cons (by decide), referred_cons (by decide),
        referred_quote, induction]
  cases values with
  | nil => rfl
  | cons first others => rw [quoteList_cons, List.append_assoc, referred_quote, more]

/-- What stands between spaces is passed over with them. -/
theorem referred_spaced (bland : Bland text) (rest : List Char) :
    referred (' ' :: (text ++ ' ' :: rest)) = referred rest := by
  rw [referred_cons (by decide), referred_of_bland bland (stops_cons.mpr rfl),
    referred_cons (by decide)]

/-- A word is read together with the sign that ends it. -/
theorem pieces_word {word : String} (isName : isWord word = true) {sign : Char}
    (ordinary : sign ≠ '\'') (rest : List Char) :
    pieces (word.toList ++ sign :: rest) =
      (pieces rest).map fun found => word.toList.map .bare ++ .bare sign :: found := by
  have quoteless : '\'' ∉ word.toList := notMem_of_isWord isName (by decide)
  rw [pieces_append_of_quoteless quoteless, pieces_cons ordinary, Option.map_map]
  rfl

theorem tokens_word_sign {word : String} (isName : isWord word = true) {sign : Char}
    (breaks : isWordPart sign = false) (found : List Piece) :
    tokens (word.toList.map .bare ++ .bare sign :: found) =
      .word word.toList :: .sign sign :: tokens found := by
  have nonempty : word.toList ≠ [] := by
    intro empty
    simp [isWord, empty] at isName
  have ends : Breaks (.bare sign :: found) := by
    rintro _ ⟨⟩
    exact breaks
  rw [tokens_word nonempty (fun _ => isWordPart_of_isWord isName) ends, tokens_bare_of_sign breaks]

/-- A name before a point is referred to. -/
theorem referred_name_point {name : String} (isName : isWord name = true) (rest : List Char) :
    referred (name.toList ++ '.' :: rest) = (referred rest).map (name :: ·) := by
  rw [referred, pieces_word isName (by decide), referred, Option.map_map, Option.map_map]
  refine Option.map_congr fun found _ => ?_
  simp only [Function.comp_apply, tokens_word_sign isName (by decide : isWordPart '.' = false)]
  rw [references, reference?_of_point, String.ofList_toList, if_pos isName]
  rfl

/-- The name of a function that tests no model is passed over. -/
theorem referred_call {name : String} (isName : isWord name = true)
    (other : name.toList ≠ modelTestName) (rest : List Char) :
    referred (name.toList ++ '(' :: rest) = referred rest := by
  rw [referred, pieces_word isName (by decide), referred, Option.map_map]
  refine Option.map_congr fun found _ => ?_
  have silent : reference? name.toList (.sign '(' :: tokens found) = none := by
    rw [reference?, if_neg (by simp), if_neg other]
  simp only [Function.comp_apply, tokens_word_sign isName (by decide : isWordPart '(' = false)]
  rw [references, silent]
  rfl

theorem isWord_modelTestName : isWord "IS_OF_MODEL" = true := by
  decide

theorem reference?_modelTestName (rest : List Token) :
    reference? "IS_OF_MODEL".toList (.sign '(' :: rest) = firstOfTwo? (.sign '(' :: rest) :=
  (if_neg (by simp)).trans (if_pos rfl)

theorem firstOfTwo?_literal (value : List Char) (more : List Token) :
    firstOfTwo? (.sign '(' :: .literal value :: .sign ')' :: more) = none := by
  rfl

theorem firstOfTwo?_word {name : String} (isName : isWord name = true) (value : List Char)
    (more : List Token) :
    firstOfTwo? (.sign '(' :: .word name.toList :: .sign ',' :: .sign ' ' :: .literal value ::
      .sign ')' :: more) = some name := by
  have two : arguments (.sign '(' :: .word name.toList :: .sign ',' :: .sign ' ' ::
      .literal value :: .sign ')' :: more) =
        [[.word name.toList], [.sign ' ', .literal value]] := by
    rfl
  rw [firstOfTwo?, two]
  simp only [String.ofList_toList, if_pos isName]

/-- A model test with one argument, which is a literal, refers to nothing. -/
theorem referred_modelTest_literal (value : String) (rest : List Char) :
    referred ("IS_OF_MODEL".toList ++ '(' :: (quote value ++ ')' :: rest)) = referred rest := by
  rw [referred, pieces_word isWord_modelTestName (by decide), pieces_quote, pieces_cons (by decide),
    referred, Option.map_map, Option.map_map, Option.map_map]
  refine Option.map_congr fun found _ => ?_
  simp only [Function.comp_apply,
    tokens_word_sign isWord_modelTestName (by decide : isWordPart '(' = false),
    tokens_literal, tokens_bare_of_sign (by decide : isWordPart ')' = false)]
  rw [references, reference?_modelTestName, firstOfTwo?_literal]
  rfl

/-- A model test with two arguments refers to the first one. -/
theorem referred_modelTest_name {name : String} (isName : isWord name = true) (value : String)
    (rest : List Char) :
    referred ("IS_OF_MODEL".toList ++ '(' ::
      (name.toList ++ ',' :: ' ' :: (quote value ++ ')' :: rest))) =
        (referred rest).map (name :: ·) := by
  rw [referred, pieces_word isWord_modelTestName (by decide), pieces_word isName (by decide),
    pieces_cons (by decide), pieces_quote, pieces_cons (by decide), referred, Option.map_map,
    Option.map_map, Option.map_map, Option.map_map, Option.map_map, Option.map_map]
  refine Option.map_congr fun found _ => ?_
  have silent (more : List Token) : reference? name.toList (.sign ',' :: more) = none :=
    reference?_of_head (by simp) (by simp)
  simp only [Function.comp_apply,
    tokens_word_sign isWord_modelTestName (by decide : isWordPart '(' = false),
    tokens_word_sign isName (by decide : isWordPart ',' = false), tokens_literal,
    tokens_bare_of_sign (by decide : isWordPart ' ' = false),
    tokens_bare_of_sign (by decide : isWordPart ')' = false)]
  rw [references, reference?_modelTestName, firstOfTwo?_word isName, references_sign, references,
    silent]
  rfl

end

end Text
end TwinGraph
