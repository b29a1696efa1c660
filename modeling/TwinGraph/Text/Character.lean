/-!
# Characters and words

White space, digits and the characters of words, the texts that hold such characters alone, and the
comparison of words without regard to case.  White space is that of the Unicode property
`White_Space`.  Words know ASCII letters alone: no other letter can start, continue or equal one.
-/

namespace TwinGraph
namespace Text

/-- The property `White_Space`: tab to carriage return, space, next line, and the wide spaces. -/
def isWhiteSpace (character : Char) : Bool :=
  let code := character.toNat
  (0x9 ≤ code && code ≤ 0xD) || code == 0x20 || code == 0x85 || code == 0xA0 ||
    code == 0x1680 || (0x2000 ≤ code && code ≤ 0x200A) || code == 0x2028 || code == 0x2029 ||
    code == 0x202F || code == 0x205F || code == 0x3000

/-- A text is blank when trimming its white space leaves nothing. -/
def isBlank (text : String) : Bool :=
  text.toList.all isWhiteSpace

/-- A text without the white space at its beginning and at its end. -/
def trim (text : String) : List Char :=
  ((text.toList.dropWhile isWhiteSpace).reverse.dropWhile isWhiteSpace).reverse

theorem isBlank_iff {text : String} :
    isBlank text = true ↔ ∀ character ∈ text.toList, isWhiteSpace character = true := by
  simp [isBlank]

theorem dropWhile_isWhiteSpace_eq_nil_iff {text : List Char} :
    text.dropWhile isWhiteSpace = [] ↔ ∀ character ∈ text, isWhiteSpace character = true := by
  induction text with
  | nil => simp
  | cons character rest ih => cases white : isWhiteSpace character <;> simp [white, ih]

/-- What is left after the white space at the beginning begins with another character. -/
theorem trim_eq_nil_iff {text : String} : trim text = [] ↔ isBlank text = true := by
  rw [isBlank_iff, ← dropWhile_isWhiteSpace_eq_nil_iff, trim, List.reverse_eq_nil_iff,
    dropWhile_isWhiteSpace_eq_nil_iff]
  have visible := List.head?_dropWhile_not isWhiteSpace text.toList
  cases kept : text.toList.dropWhile isWhiteSpace with
  | nil => simp
  | cons first rest =>
    have other : isWhiteSpace first = false := by simpa [kept] using visible
    simp [other]

/-- The value of a character as a digit, if it is one of the base. -/
def digitValue? (base : Nat) (character : Char) : Option Nat :=
  let code := character.toNat
  let value :=
    if 0x30 ≤ code && code ≤ 0x39 then code - 0x30
    else if 0x61 ≤ code && code ≤ 0x66 then code - 0x61 + 10
    else if 0x41 ≤ code && code ≤ 0x46 then code - 0x41 + 10
    else base
  if value < base then some value else none

/-- Whether a character is a digit of the base. -/
def isDigitOf (base : Nat) (character : Char) : Bool :=
  (digitValue? base character).isSome

/-- The number that digits stand for; a character that is no digit counts as a zero. -/
def numberOf (base : Nat) (digits : List Char) : Nat :=
  digits.foldl (fun number digit => number * base + (digitValue? base digit).getD 0) 0

/-- The number that a nonempty run of digits stands for. -/
def number? (base : Nat) (digits : List Char) : Option Nat :=
  if digits.isEmpty || !digits.all (isDigitOf base) then none else some (numberOf base digits)

/-- The character of a Unicode scalar value. -/
def scalar? (code : Nat) : Option Char :=
  if code.isValidChar then some (Char.ofNat code) else none

/-- A letter of ASCII or an underscore, with which a word begins. -/
def isWordStart (character : Char) : Bool :=
  character.isAlpha || character == '_'

/-- A letter or digit of ASCII or an underscore, with which a word goes on. -/
def isWordPart (character : Char) : Bool :=
  character.isAlphanum || character == '_'

/-- Whether a whole text is one word. -/
def isWord (text : String) : Bool :=
  match text.toList with
  | [] => false
  | first :: rest => isWordStart first && rest.all isWordPart

/-- A text with its ASCII letters in upper case. -/
def upperCase (text : String) : List Char :=
  text.toList.map Char.toUpper

/-- Equality of texts without regard to the case of ASCII letters. -/
def equalIgnoringCase (left right : String) : Bool :=
  upperCase left == upperCase right

theorem equalIgnoringCase_iff {left right : String} :
    equalIgnoringCase left right = true ↔ upperCase left = upperCase right := by
  simp [equalIgnoringCase]

theorem isWordPart_of_isWordStart {character : Char} (start : isWordStart character = true) :
    isWordPart character = true := by
  simp only [isWordStart, isWordPart, Char.isAlphanum, Bool.or_eq_true] at start ⊢
  rcases start with letter | underscore
  · exact .inl (.inl letter)
  · exact .inr underscore

theorem toNat_of_isWordStart {character : Char} (start : isWordStart character = true) :
    65 ≤ character.toNat ∧ character.toNat ≤ 90 ∨
      97 ≤ character.toNat ∧ character.toNat ≤ 122 ∨ character.toNat = 95 := by
  have value : character.toNat = character.val.toNat := rfl
  have letter : character.isAlpha =
      (decide (65 ≤ character.val ∧ character.val ≤ 90) ||
        (decide (97 ≤ character.val) && decide (character.val ≤ 122))) := rfl
  simp only [isWordStart, letter, Bool.or_eq_true, Bool.and_eq_true, decide_eq_true_eq, beq_iff_eq,
    UInt32.le_iff_toNat_le] at start
  rcases start with (upper | lower) | rfl
  · exact .inl (value ▸ upper)
  · exact .inr (.inl (value ▸ lower))
  · exact .inr (.inr rfl)

theorem isWhiteSpace_of_isWordStart {character : Char} (start : isWordStart character = true) :
    isWhiteSpace character = false := by
  have code := toNat_of_isWordStart start
  simp only [isWhiteSpace, Bool.or_eq_false_iff, Bool.and_eq_false_iff, decide_eq_false_iff_not,
    beq_eq_false_iff_ne]
  omega

theorem isBlank_of_isWord {text : String} (word : isWord text = true) : isBlank text = false := by
  unfold isWord at word
  unfold isBlank
  cases characters : text.toList with
  | nil => simp [characters] at word
  | cons first rest =>
    simp only [characters, Bool.and_eq_true] at word
    simp [isWhiteSpace_of_isWordStart word.1]

end Text
end TwinGraph
