import DynamicFeeWallet.Json.Number
import DynamicFeeWallet.Text.Hex
import DynamicFeeWallet.Toml.Basic

/-!
# Literals of settings documents

The values that are written without quotes or brackets: truth values, numbers, dates and times. Low lines may stand
between two digits. A whole number has 64 bits; a date has to be one of the calendar, and a time one of the day, a
leap second included.
-/

namespace DynamicFeeWallet.Toml

/-- Digits with single low lines between them, without the low lines. -/
def spacedDigits? (isDigit : Char → Bool) : List Char → Option (List Char)
  | [] => none
  | [c] => if isDigit c then some [c] else none
  | c :: '_' :: rest => if isDigit c then (spacedDigits? isDigit rest).map (c :: ·) else none
  | c :: rest => if isDigit c then (spacedDigits? isDigit rest).map (c :: ·) else none

/-- The text after its sign, and whether the sign is a minus. -/
def signed : List Char → Bool × List Char
  | '-' :: rest => (true, rest)
  | '+' :: rest => (false, rest)
  | rest => (false, rest)

/-- A whole number of 64 bits. -/
def inRange? (n : Int) : Option Int := if Int64.minValue.toInt ≤ n ∧ n ≤ Int64.maxValue.toInt then some n else none

/-- The number that digits of a base write; they are known to be such digits. -/
def ofDigits (base : Nat) (digits : List Char) : Nat :=
  digits.foldl (fun n c => n * base + (Hex.digit? c).getD 0) 0

/-- A digit of a base. -/
def isDigitOf (base : Nat) (c : Char) : Bool := ((Hex.digit? c).map fun d => decide (d < base)).getD false

/-- Decimal digits that do not start with a zero, unless they are one. -/
def plainDigits? (text : List Char) : Option (List Char) := do
  let digits ← spacedDigits? Char.isDigit text
  if 1 < digits.length ∧ digits.head? = some '0' then none else some digits

/-- A whole number: decimal with an optional sign, or of another base after its mark. -/
def whole? : List Char → Option Int
  | '0' :: 'x' :: digits => do inRange? (ofDigits 16 (← spacedDigits? (isDigitOf 16) digits))
  | '0' :: 'o' :: digits => do inRange? (ofDigits 8 (← spacedDigits? (isDigitOf 8) digits))
  | '0' :: 'b' :: digits => do inRange? (ofDigits 2 (← spacedDigits? (isDigitOf 2) digits))
  | literal => do
    let (negative, rest) := signed literal
    let n : Int := ofDigits 10 (← plainDigits? rest)
    inRange? (if negative then -n else n)

/-- The exponent that a text is. -/
def exponent? (text : List Char) : Option Int := do
  let (negative, rest) := signed text
  let n : Int := ofDigits 10 (← spacedDigits? Char.isDigit rest)
  return if negative then -n else n

/-- The fraction is not past the range of binary floating point above zero. -/
def isFinite (negative : Bool) (digits : Nat) (exponent : Int) : Bool :=
  negative || (Fraction.ofDecimal? negative digits exponent).isSome

/-- A text before and after the first character of a kind. -/
def cut (isMark : Char → Bool) (text : List Char) : List Char × Option (List Char) :=
  match text.dropWhile (!isMark ·) with
  | [] => (text, none)
  | _ :: after => (text.takeWhile (!isMark ·), some after)

/-- The text is a fraction: digits with a point, an exponent, or both, or one of the two words. -/
def isFraction (text : List Char) : Bool :=
  let (negative, rest) := signed text
  if rest = "inf".toList ∨ rest = "nan".toList then true
  else
    let (mantissa, exponentText) := cut (fun c => c == 'e' || c == 'E') rest
    let (before, after) := cut (· == '.') mantissa
    let read : Option Bool := do
      let exponent ← match exponentText with
        | some t => exponent? t
        | none => some 0
      let beforeDigits ← plainDigits? before
      let afterDigits ← match after with
        | some t => spacedDigits? Char.isDigit t
        | none => some []
      return isFinite negative (ofDigits 10 (beforeDigits ++ afterDigits)) (exponent - afterDigits.length)
    (exponentText.isSome || after.isSome) && read.getD false

/-! ## Dates and times -/

/-- Decimal digits in front, as many as asked for, as a number. -/
def digitsInFront? (count : Nat) (text : List Char) : Option (Nat × List Char) :=
  let digits := text.take count
  if digits.length = count ∧ digits.all Char.isDigit then some (ofDigits 10 digits, text.drop count) else none

/-- A character in front. -/
def charInFront? (c : Char) : List Char → Option (List Char)
  | d :: rest => if d = c then some rest else none
  | [] => none

/-- The days of a month. -/
def daysOf (year month : Nat) : Nat :=
  if month = 2 then (if year % 4 = 0 ∧ (year % 100 ≠ 0 ∨ year % 400 = 0) then 29 else 28)
  else if [4, 6, 9, 11].contains month then 30
  else 31

/-- What follows a date. -/
def afterDate? (text : List Char) : Option (List Char) := do
  let (year, rest) ← digitsInFront? 4 text
  let (month, rest) ← digitsInFront? 2 (← charInFront? '-' rest)
  let (day, rest) ← digitsInFront? 2 (← charInFront? '-' rest)
  if 1 ≤ month ∧ month ≤ 12 ∧ 1 ≤ day ∧ day ≤ daysOf year month then some rest else none

/-- What follows a time; parts of a second may be given. -/
def afterTime? (text : List Char) : Option (List Char) := do
  let (hour, rest) ← digitsInFront? 2 text
  let (minute, rest) ← digitsInFront? 2 (← charInFront? ':' rest)
  let (second, rest) ← digitsInFront? 2 (← charInFront? ':' rest)
  if 23 < hour ∨ 59 < minute ∨ 60 < second then none
  else
    match rest with
    | '.' :: parts => if (parts.takeWhile Char.isDigit).isEmpty then none else some (parts.dropWhile Char.isDigit)
    | rest => some rest

/-- The text is the distance of a time from that of the zero meridian. -/
def isZone : List Char → Bool
  | ['Z'] => true
  | ['z'] => true
  | sign :: rest =>
    (sign == '+' || sign == '-') &&
      (do
        let (hour, rest) ← digitsInFront? 2 rest
        let (minute, rest) ← digitsInFront? 2 (← charInFront? ':' rest)
        some (hour ≤ 23 && minute ≤ 59 && rest.isEmpty)).getD false
  | [] => false

/-- The text is a time, with a zone or without. -/
def isZonedTime (text : List Char) : Bool :=
  match afterTime? text with
  | some rest => rest.isEmpty || isZone rest
  | none => false

/-- The text is a date. -/
def isDate (text : List Char) : Bool := afterDate? text == some []

/-- The text is a date, a time, or a date and a time with a `T` between them. -/
def isDateTime (text : List Char) : Bool :=
  match afterDate? text with
  | some [] => true
  | some (c :: time) => (c == 'T' || c == 't') && isZonedTime time
  | none => afterTime? text == some []

/-- The value that a literal writes. -/
def ofLiteral? (text : List Char) : Option Toml :=
  if text = "true".toList then some (.truth true)
  else if text = "false".toList then some (.truth false)
  else if isDateTime text then some (.date (String.ofList text))
  else if isFraction text then some (.fraction (String.ofList text))
  else (whole? text).map .whole

end DynamicFeeWallet.Toml
