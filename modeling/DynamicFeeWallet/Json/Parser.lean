import DynamicFeeWallet.Json.Basic
import DynamicFeeWallet.Text.Hex

/-!
# Reading documents

A document is read as a whole: blanks may stand around every value, and nothing else may follow it. Arrays and objects
nest at most 127 deep. A text holds no bare control character, and an escaped surrogate has to come in a pair.
-/

namespace DynamicFeeWallet.Json

/-- What is left after the blanks in front. -/
def skipBlanks (input : List Char) : List Char :=
  input.dropWhile fun c => c == ' ' || c == '\n' || c == '\t' || c == '\r'

/-- Four hexadecimal digits in front, as a number. -/
def readUnit : List Char → Option (Nat × List Char)
  | a :: b :: c :: d :: rest => do
    return ((((← Hex.digit? a) * 16 + (← Hex.digit? b)) * 16 + (← Hex.digit? c)) * 16 + (← Hex.digit? d), rest)
  | _ => none

/-- The character after a backslash and `u`: one unit of 16 bits, or two that make a pair. -/
def readNumbered (input : List Char) : Option (Char × List Char) := do
  let (unit, rest) ← readUnit input
  if 0xdc00 ≤ unit ∧ unit ≤ 0xdfff then none
  else if 0xd800 ≤ unit ∧ unit ≤ 0xdbff then
    match rest with
    | '\\' :: 'u' :: rest =>
      let (low, rest) ← readUnit rest
      if 0xdc00 ≤ low ∧ low ≤ 0xdfff then some (Char.ofNat (0x10000 + (unit - 0xd800) * 0x400 + (low - 0xdc00)), rest)
      else none
    | _ => none
  else some (Char.ofNat unit, rest)

/-- The character that a letter after a backslash stands for. -/
def unescape? : Char → Option Char
  | '"' => some '"'
  | '\\' => some '\\'
  | '/' => some '/'
  | 'b' => some '\x08'
  | 'f' => some '\x0c'
  | 'n' => some '\n'
  | 'r' => some '\r'
  | 't' => some '\t'
  | _ => none

/-- The rest of a text after its opening quote, with the characters before it in reverse; `fuel` bounds their number. -/
def readText : Nat → List Char → List Char → Option (String × List Char)
  | 0, _, _ => none
  | _, _, [] => none
  | _, seen, '"' :: rest => some (String.ofList seen.reverse, rest)
  | fuel + 1, seen, '\\' :: 'u' :: rest => do
    let (c, rest) ← readNumbered rest
    readText fuel (c :: seen) rest
  | fuel + 1, seen, '\\' :: c :: rest => do readText fuel ((← unescape? c) :: seen) rest
  | fuel + 1, seen, c :: rest => if c.toNat < 0x20 ∨ c = '\\' then none else readText fuel (c :: seen) rest

/-- The decimal digits in front. -/
def digitsOf (input : List Char) : List Char := input.takeWhile Char.isDigit

/-- The number that decimal digits write. -/
def ofDigits (digits : List Char) : Nat := Nat.ofDigitChars 10 digits 0

/-- The digits after a point in front, if there is one; a point without digits is refused. -/
def readFraction : List Char → Option (Option (List Char) × List Char)
  | '.' :: rest => if digitsOf rest = [] then none else some (some (digitsOf rest), rest.dropWhile Char.isDigit)
  | input => some (none, input)

/-- The exponent in front, if there is one; an exponent without digits is refused. -/
def readExponent : List Char → Option (Option Int × List Char)
  | [] => some (none, [])
  | c :: rest =>
    if c = 'e' ∨ c = 'E' then
      let (negative, rest) := match rest with
        | '-' :: rest => (true, rest)
        | '+' :: rest => (false, rest)
        | rest => (false, rest)
      if digitsOf rest = [] then none
      else
        let n : Int := ofDigits (digitsOf rest)
        some (some (if negative then -n else n), rest.dropWhile Char.isDigit)
    else some (none, c :: rest)

/-- The number in front. -/
def readNumber (input : List Char) : Option (Number × List Char) := do
  let (negative, input) := match input with
    | '-' :: rest => (true, rest)
    | input => (false, input)
  let whole := digitsOf input
  if whole = [] ∨ 1 < whole.length ∧ whole.head? = some '0' then none
  else
    let (fraction, rest) ← readFraction (input.dropWhile Char.isDigit)
    let (exponent, rest) ← readExponent rest
    let digits := ofDigits (whole ++ fraction.getD [])
    let number ← Number.ofParts? negative digits (exponent.getD 0 - (fraction.getD []).length)
      (fraction.isNone && exponent.isNone)
    return (number, rest)

/-- What is left after a word in front. -/
def expect (word : String) (input : List Char) : Option (List Char) :=
  if word.toList.isPrefixOf input then some (input.drop word.length) else none

mutual

/-- The value in front; `fuel` bounds the values and members still to come, `depth` how deep they may nest. -/
def readValue : Nat → Nat → List Char → Option (Json × List Char)
  | 0, _, _ => none
  | fuel + 1, depth, input =>
    match skipBlanks input with
    | 'n' :: rest => do return (.null, ← expect "ull" rest)
    | 't' :: rest => do return (.bool true, ← expect "rue" rest)
    | 'f' :: rest => do return (.bool false, ← expect "alse" rest)
    | '"' :: rest => do
      let (s, rest) ← readText (rest.length + 1) [] rest
      return (.text s, rest)
    | '[' :: rest =>
      if depth ≤ 1 then none
      else
        match skipBlanks rest with
        | ']' :: rest => some (.array [], rest)
        | rest => do
          let (items, rest) ← readItems fuel (depth - 1) rest
          return (.array items, rest)
    | '\x7b' :: rest =>
      if depth ≤ 1 then none
      else
        match skipBlanks rest with
        | '\x7d' :: rest => some (.members [], rest)
        | rest => do
          let (fields, rest) ← readMembers fuel (depth - 1) rest
          return (.object fields, rest)
    | input => do
      let (n, rest) ← readNumber input
      return (.number n, rest)

/-- The items in front, at least one, up to the closing bracket. -/
def readItems : Nat → Nat → List Char → Option (List Json × List Char)
  | 0, _, _ => none
  | fuel + 1, depth, input => do
    let (item, rest) ← readValue fuel depth input
    match skipBlanks rest with
    | ']' :: rest => return ([item], rest)
    | ',' :: rest =>
      let (items, rest) ← readItems fuel depth rest
      return (item :: items, rest)
    | _ => none

/-- The members in front, at least one, up to the closing brace. -/
def readMembers : Nat → Nat → List Char → Option (List (String × Json) × List Char)
  | 0, _, _ => none
  | fuel + 1, depth, input =>
    match skipBlanks input with
    | '"' :: rest => do
      let (name, rest) ← readText (rest.length + 1) [] rest
      match skipBlanks rest with
      | ':' :: rest =>
        let (value, rest) ← readValue fuel depth rest
        match skipBlanks rest with
        | '\x7d' :: rest => return ([(name, value)], rest)
        | ',' :: rest =>
          let (fields, rest) ← readMembers fuel depth rest
          return ((name, value) :: fields, rest)
        | _ => none
      | _ => none
    | _ => none

end

/-- The document that a text writes. -/
def parse? (text : String) : Option Json := do
  let input := text.toList
  let (value, rest) ← readValue (2 * input.length + 2) 128 input
  if skipBlanks rest = [] then some value else none

end DynamicFeeWallet.Json
