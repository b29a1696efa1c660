import TwinGraph.Toml.Calendar
import TwinGraph.Toml.Value

/-!
# Bare values of TOML

Numbers, booleans, dates and times stand in a document without delimiters.  Their characters are
collected first, and the whole of them has to be a value of one of these kinds.
-/

namespace TwinGraph

open scoped Binary64

namespace Toml

/-- A character that can belong to a bare value. -/
def isBare (character : Char) : Bool :=
  character.isAlphanum || character == '_' || character == '+' || character == '-' ||
    character == '.' || character == ':'

/-- Digits without the underscores between them.  An underscore has to stand between digits. -/
def digits? (base : Nat) (afterDigit : Bool) : List Char → Option (List Char)
  | [] => if afterDigit then some [] else none
  | character :: rest =>
    if character == '_' then if afterDigit then digits? base false rest else none
    else if Text.isDigitOf base character then (digits? base true rest).map (character :: ·)
    else none

/-- A decimal numeral without a zero in front. -/
def decimal? (text : List Char) : Option Nat :=
  if 1 < text.length && text.head? == some '0' then none
  else (digits? 10 false text).map (Text.numberOf 10)

/-- The sign at the front of a text, and what follows it. -/
def splitSign : List Char → Bool × List Char
  | '-' :: rest => (true, rest)
  | '+' :: rest => (false, rest)
  | text => (false, text)

/-- The integer that a text is, in any of its notations. -/
def integer? : List Char → Option Int
  | '0' :: 'x' :: rest => (digits? 16 false rest).map fun digits => (Text.numberOf 16 digits : Int)
  | '0' :: 'o' :: rest => (digits? 8 false rest).map fun digits => (Text.numberOf 8 digits : Int)
  | '0' :: 'b' :: rest => (digits? 2 false rest).map fun digits => (Text.numberOf 2 digits : Int)
  | text =>
    let (negative, numeral) := splitSign text
    (decimal? numeral).map fun (magnitude : Nat) =>
      if negative then -(magnitude : Int) else magnitude

/-- Whether an integer can be held, in a hundred and twenty-eight bits with or without a sign. -/
def isHeld (value : Int) : Bool :=
  -2 ^ (127 : Nat) ≤ value && value < 2 ^ (128 : Nat)

/-- The exponent that a text is, after its mark. -/
def exponent? (text : List Char) : Option Int :=
  let (negative, numeral) := splitSign text
  (digits? 10 false numeral).map fun digits =>
    if negative then -(Text.numberOf 10 digits : Int) else Text.numberOf 10 digits

/-- The floating-point number that a text is.  It has a fraction, an exponent or both, or it is a
word for a number that has no digits. -/
def float? (text : List Char) : Option Binary64 := do
  let (negative, magnitude) := splitSign text
  if magnitude == "inf".toList then return Binary64.infinity negative
  if magnitude == "nan".toList then
    return Binary64.ofMagnitude negative (2047 * 2 ^ (52 : Nat) + 2 ^ (51 : Nat))
  let (mantissa, mark) := magnitude.span fun character => character != 'e' && character != 'E'
  let (whole, point) := mantissa.span (· != '.')
  let _ ← decimal? whole
  let whole ← digits? 10 false whole
  let fraction ← if point.isEmpty then some [] else digits? 10 false (point.drop 1)
  let exponent ← if mark.isEmpty then some 0 else exponent? (mark.drop 1)
  if point.isEmpty && mark.isEmpty then none
  else
    let value := Binary64.ofDecimal negative (Text.numberOf 10 (whole ++ fraction))
      (exponent - fraction.length)
    if value.isFinite then some value else none

/-- The value that the characters of a bare value are. -/
def scalar? (text : List Char) : Option Value :=
  if text == "true".toList then some (.boolean true)
  else if text == "false".toList then some (.boolean false)
  else if isDateTime text then some (.dateTime text)
  else
    match integer? text with
    | some value => if isHeld value then some (.integer value) else none
    | none => (float? text).map .float

/-- The bare value at the front of a text.  A space may separate a date from a time. -/
def readScalar (text : List Char) : Option (Value × List Char) :=
  let (word, rest) := text.span isBare
  let (word, rest) :=
    match rest with
    | ' ' :: digit :: _ =>
      if isDate word && Text.isDigitOf 10 digit then
        let (time, rest) := (rest.drop 1).span isBare
        (word ++ ' ' :: time, rest)
      else (word, rest)
    | _ => (word, rest)
  (scalar? word).map ((·, rest))

end Toml
end TwinGraph
