import TwinGraph.Text.Character

/-!
# Dates and times of TOML

A date has a day that its month has in its year, and a time has an hour, a minute and perhaps a
second and its fraction.  A date and a time together may name their offset from universal time.
-/

namespace TwinGraph
namespace Toml

/-- Whether a year has a twenty-ninth of February. -/
def isLeapYear (year : Nat) : Bool :=
  year % 4 == 0 && (year % 100 != 0 || year % 400 == 0)

/-- The number of days of a month, which is none for a number that is no month. -/
def daysOfMonth (year month : Nat) : Nat :=
  if month = 2 then if isLeapYear year then 29 else 28
  else if month ∈ [4, 6, 9, 11] then 30
  else if month ∈ [1, 3, 5, 7, 8, 10, 12] then 31
  else 0

/-- The text after a date at its front. -/
def afterDate? : List Char → Option (List Char)
  | y₁ :: y₂ :: y₃ :: y₄ :: '-' :: m₁ :: m₂ :: '-' :: d₁ :: d₂ :: rest => do
    let year ← Text.number? 10 [y₁, y₂, y₃, y₄]
    let month ← Text.number? 10 [m₁, m₂]
    let day ← Text.number? 10 [d₁, d₂]
    if 1 ≤ day && day ≤ daysOfMonth year month then some rest else none
  | _ => none

/-- The text after the fraction of a second, if one stands at its front. -/
def afterFraction? : List Char → Option (List Char)
  | '.' :: rest =>
    let (digits, rest) := rest.span (Text.isDigitOf 10)
    if digits.isEmpty then none else some rest
  | rest => some rest

/-- The text after the seconds, if they stand at its front.  A leap second is one more. -/
def afterSeconds? : List Char → Option (List Char)
  | ':' :: s₁ :: s₂ :: rest => do
    let second ← Text.number? 10 [s₁, s₂]
    if second ≤ 60 then afterFraction? rest else none
  | ':' :: _ => none
  | rest => some rest

/-- The text after a time at its front. -/
def afterTime? : List Char → Option (List Char)
  | h₁ :: h₂ :: ':' :: m₁ :: m₂ :: rest => do
    let hour ← Text.number? 10 [h₁, h₂]
    let minute ← Text.number? 10 [m₁, m₂]
    if hour ≤ 23 && minute ≤ 59 then afterSeconds? rest else none
  | _ => none

/-- Whether a text is an offset from universal time, of less than a day, or nothing. -/
def isOffset : List Char → Bool
  | [] => true
  | ['Z'] | ['z'] => true
  | [sign, h₁, h₂, ':', m₁, m₂] =>
    match Text.number? 10 [h₁, h₂], Text.number? 10 [m₁, m₂] with
    | some hours, some minutes =>
      (sign == '+' || sign == '-') && hours ≤ 23 && minutes ≤ 59
    | _, _ => false
  | _ => false

/-- Whether a text is a date alone. -/
def isDate (text : List Char) : Bool :=
  afterDate? text == some []

/-- Whether a text is a date, a time, or a date and a time with or without an offset. -/
def isDateTime (text : List Char) : Bool :=
  match afterDate? text with
  | some [] => true
  | some (separator :: rest) =>
    (separator == 'T' || separator == 't' || separator == ' ') &&
      match afterTime? rest with
      | some offset => isOffset offset
      | none => false
  | none => afterTime? text == some []

end Toml
end TwinGraph
