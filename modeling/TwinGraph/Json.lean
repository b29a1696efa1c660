import TwinGraph.Number.Binary64
import TwinGraph.Text.Character

/-!
# JSON values and their texts

A number is held as an integer where its text is one that fits sixty-four bits, with or without a
sign, and as a floating-point number otherwise.  A text is read from the left.  Each reader takes
the characters that are left and gives what it read with the characters that follow, or nothing if
the text does not begin as it has to.
-/

namespace TwinGraph

open scoped Binary64

namespace Json

/-- A number of a JSON text. -/
inductive Number where
  /-- An integer from `-2 ^ 63` up to, and without, `2 ^ 64`. -/
  | integer (value : Int)
  /-- Any other number, rounded to binary64. -/
  | float (value : Binary64)
  deriving DecidableEq

namespace Number

/-- The number that an integer numeral stands for.  A negative zero keeps its sign, which no
integer has, and what does not fit sixty-four bits is rounded. -/
def ofInteger (negative : Bool) (magnitude : Nat) : Number :=
  if negative then
    if 0 < magnitude && magnitude ≤ 2 ^ (63 : Nat) then .integer (-magnitude)
    else .float (Binary64.nearest true magnitude 1)
  else
    if magnitude < 2 ^ (64 : Nat) then .integer magnitude
    else .float (Binary64.nearest false magnitude 1)

end Number

/-- A JSON value.  The members of an object stand in the order of the text. -/
inductive Value where
  | null
  | boolean (value : Bool)
  | number (value : Number)
  | string (value : String)
  | array (elements : List Value)
  | object (members : List (String × Value))

namespace Value

/-- The name that a value gives for a word of a fixed vocabulary: a string, or an object whose only
key is the name and has no value of its own. -/
def name? : Value → Option String
  | string name => some name
  | object [(name, null)] => some name
  | _ => none

end Value

/-- The four characters that may stand between tokens. -/
def isSpace (character : Char) : Bool :=
  character == ' ' || character == '\t' || character == '\n' || character == '\r'

/-- The text without the spaces at its front. -/
def skipSpace (text : List Char) : List Char :=
  text.dropWhile isSpace

/-- The character for which a letter stands after a backslash. -/
def escaped? : Char → Option Char
  | '"' => some '"'
  | '\\' => some '\\'
  | '/' => some '/'
  | 'b' => some '\x08'
  | 'f' => some '\x0c'
  | 'n' => some '\n'
  | 'r' => some '\r'
  | 't' => some '\t'
  | _ => none

/-- The code that two surrogates stand for together. -/
def pairCode? (high low : Nat) : Option Nat :=
  if 0xDC00 ≤ low && low ≤ 0xDFFF then some (0x10000 + (high - 0xD800) * 0x400 + (low - 0xDC00))
  else none

/-- The contents of a string after its opening quote. -/
def readString : List Char → Option (List Char × List Char)
  | [] => none
  | '"' :: rest => some ([], rest)
  | '\\' :: 'u' :: a :: b :: c :: d :: rest => do
    let code ← Text.number? 16 [a, b, c, d]
    if 0xD800 ≤ code && code ≤ 0xDBFF then
      match rest with
      | '\\' :: 'u' :: e :: f :: g :: h :: rest =>
        let low ← Text.number? 16 [e, f, g, h]
        let character ← (pairCode? code low).bind Text.scalar?
        let (contents, rest) ← readString rest
        some (character :: contents, rest)
      | _ => none
    else
      let character ← Text.scalar? code
      let (contents, rest) ← readString rest
      some (character :: contents, rest)
  | '\\' :: letter :: rest => do
    let character ← escaped? letter
    let (contents, rest) ← readString rest
    some (character :: contents, rest)
  | character :: rest =>
    if character.toNat < 0x20 || character == '\\' then none
    else do
      let (contents, rest) ← readString rest
      some (character :: contents, rest)

/-- The digits at the front of a text and what follows them. -/
def spanDigits (text : List Char) : List Char × List Char :=
  text.span (Text.isDigitOf 10)

/-- The exponent at the front of a text, if it begins with one. -/
def readExponent : List Char → Option (Option Int × List Char)
  | mark :: rest =>
    if mark == 'e' || mark == 'E' then
      let (negative, digits) :=
        match rest with
        | '-' :: digits => (true, digits)
        | '+' :: digits => (false, digits)
        | digits => (false, digits)
      let (digits, rest) := spanDigits digits
      (Text.number? 10 digits).map fun (magnitude : Nat) =>
        (some (if negative then -(magnitude : Int) else magnitude), rest)
    else some (none, mark :: rest)
  | [] => some (none, [])

/-- The digits after the point at the front of a text, if it begins with one. -/
def readFraction : List Char → Option (Option (List Char) × List Char)
  | '.' :: rest =>
    let (digits, rest) := spanDigits rest
    if digits.isEmpty then none else some (some digits, rest)
  | rest => some (none, rest)

/-- The number at the front of a text.  One that is too great for any finite value is no number. -/
def readNumber (text : List Char) : Option (Number × List Char) := do
  let (negative, text) :=
    match text with
    | '-' :: rest => (true, rest)
    | rest => (false, rest)
  let (whole, rest) := spanDigits text
  if whole.isEmpty || (1 < whole.length && whole.head? == some '0') then none
  else
    let (fraction, rest) ← readFraction rest
    let (exponent, rest) ← readExponent rest
    if fraction.isNone && exponent.isNone then
      let number := Number.ofInteger negative (Text.numberOf 10 whole)
      match number with
      | .float value => if value.isFinite then some (number, rest) else none
      | .integer _ => some (number, rest)
    else
      let fraction := fraction.getD []
      let value := Binary64.ofDecimal negative (Text.numberOf 10 (whole ++ fraction))
        (exponent.getD 0 - fraction.length)
      if value.isFinite then some (.float value, rest) else none

/-- The text after a word that has to stand at its front. -/
def afterWord? (word text : List Char) : Option (List Char) :=
  if word.isPrefixOf text then some (text.drop word.length) else none

mutual

/-- The value at the front of a text.  Every value within has a shorter text, so the length of the
text bounds the depth. -/
def readValue : Nat → List Char → Option (Value × List Char)
  | 0, _ => none
  | depth + 1, text =>
    match skipSpace text with
    | [] => none
    | '"' :: rest => (readString rest).map fun (contents, rest) =>
      (.string (String.ofList contents), rest)
    | '[' :: rest =>
      match skipSpace rest with
      | ']' :: rest => some (.array [], rest)
      | rest => (readElements depth rest).map fun (elements, rest) => (.array elements, rest)
    | '\x7b' :: rest =>
      match skipSpace rest with
      | '\x7d' :: rest => some (.object [], rest)
      | rest => (readMembers depth rest).map fun (members, rest) => (.object members, rest)
    | 'n' :: rest => (afterWord? "ull".toList rest).map ((.null, ·))
    | 't' :: rest => (afterWord? "rue".toList rest).map ((.boolean true, ·))
    | 'f' :: rest => (afterWord? "alse".toList rest).map ((.boolean false, ·))
    | rest => (readNumber rest).map fun (number, rest) => (.number number, rest)

/-- The elements of an array after its opening bracket. -/
def readElements : Nat → List Char → Option (List Value × List Char)
  | 0, _ => none
  | depth + 1, text => do
    let (element, rest) ← readValue depth text
    match skipSpace rest with
    | ']' :: rest => some ([element], rest)
    | ',' :: rest =>
      let (elements, rest) ← readElements depth rest
      some (element :: elements, rest)
    | _ => none

/-- The members of an object after its opening brace. -/
def readMembers : Nat → List Char → Option (List (String × Value) × List Char)
  | 0, _ => none
  | depth + 1, text =>
    match skipSpace text with
    | '"' :: rest => do
      let (key, rest) ← readString rest
      match skipSpace rest with
      | ':' :: rest =>
        let (value, rest) ← readValue depth rest
        match skipSpace rest with
        | '\x7d' :: rest => some ([(String.ofList key, value)], rest)
        | ',' :: rest =>
          let (members, rest) ← readMembers depth rest
          some ((String.ofList key, value) :: members, rest)
        | _ => none
      | _ => none
    | _ => none

end

/-- The value that a whole text stands for. -/
def Value.ofText? (text : String) : Option Value :=
  match readValue (text.length + 1) text.toList with
  | some (value, rest) => if (skipSpace rest).isEmpty then some value else none
  | none => none

end Json
end TwinGraph
