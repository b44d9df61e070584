/-!
# Numbers in documents

A number is a whole number of 64 bits, a negative one, or a fraction. A fraction has the precision of binary floating
point of 64 bits, and is held and written by the fewest decimal digits that name it: among them the nearest, in plain
notation while the point stays within 16 places, and with an exponent beyond.
-/

namespace DynamicFeeWallet

/-- A fraction by its shortest decimal digits: `digits * 10 ^ exponent`, with a sign that zero has too. -/
structure Fraction where
  (negative : Bool) (digits : Nat) (exponent : Int)
deriving DecidableEq

namespace Fraction

/-- The quotient rounded to the nearest whole number, a half to the even one. -/
def roundHalfEven (num den : Nat) : Nat :=
  let q := num / den
  let twice := 2 * (num % den)
  if twice < den || twice = den && q % 2 = 0 then q else q + 1

/-- A positive rational as a numerator and a denominator, scaled by a power of a base. -/
def scaled (base : Nat) (num den : Nat) (power : Int) : Nat × Nat :=
  if 0 ≤ power then (num * Nat.pow base power.toNat, den) else (num, den * Nat.pow base (-power).toNat)

/-- The binary floating-point number nearest to `num / den`: a significand below `2 ^ 53` and an exponent; none past
the range. -/
def nearestBinary? (num den : Nat) : Option (Nat × Int) :=
  let guess : Int := (num.log2 : Int) - den.log2 - 52
  -- the quotient by `2 ^ guess` lies in `(2 ^ 51, 2 ^ 53)`; one step lower when it is below `2 ^ 52`
  let fits (e : Int) : Bool := let (n, d) := scaled 2 num den (-e); d * Nat.pow 2 52 ≤ n
  let exponent := max (if fits guess then guess else guess - 1) (-1074)
  let (n, d) := scaled 2 num den (-exponent)
  let significand := roundHalfEven n d
  let (significand, exponent) :=
    if significand = Nat.pow 2 53 then (Nat.pow 2 52, exponent + 1) else (significand, exponent)
  if 971 < exponent then none else some (significand, exponent)

/-- The number of decimal digits of a positive rational before its point, zero or negative for zeros after it. -/
def magnitude (num den : Nat) : Int :=
  let guess : Int := (Nat.toDigits 10 num).length - (Nat.toDigits 10 den).length
  let (n, d) := scaled 10 num den (-guess)
  if d ≤ n then guess + 1 else guess

/-- The decimal with `count` digits nearest to a binary number, if it lies where every number rounds to that one. -/
def withDigits? (significand : Nat) (exponent : Int) (count : Nat) : Option (Nat × Int) :=
  let (num, den) := scaled 2 significand 1 exponent
  let place : Int := magnitude num den - count
  let (n, d) := scaled 10 num den (-place)
  -- the half-way points to the neighbours, in quarters of the last binary place
  let lowQuarters := if significand = Nat.pow 2 52 && -1074 < exponent then 4 * significand - 1 else 4 * significand - 2
  let inside (candidate : Nat) : Bool :=
    let (c, cd) := scaled 10 candidate 1 place
    let (low, lowDen) := scaled 2 lowQuarters 4 exponent
    let (high, highDen) := scaled 2 (4 * significand + 2) 4 exponent
    if significand % 2 = 0 then low * cd ≤ c * lowDen && c * highDen ≤ high * cd
    else low * cd < c * lowDen && c * highDen < high * cd
  let down := n / d
  let nearest := roundHalfEven n d
  let other := if nearest = down then down + 1 else down
  if inside nearest then some (nearest, place) else if inside other then some (other, place) else none

/-- Digits without zeros at their end. -/
def trim : Nat → Nat → Int → Nat × Int
  | 0, digits, exponent => (digits, exponent)
  | fuel + 1, digits, exponent =>
    if digits ≠ 0 ∧ digits % 10 = 0 then trim fuel (digits / 10) (exponent + 1) else (digits, exponent)

/-- The fraction nearest to `digits * 10 ^ exponent`; none past the range. -/
def ofDecimal? (negative : Bool) (digits : Nat) (exponent : Int) : Option Fraction :=
  let length : Int := (Nat.toDigits 10 digits).length
  if digits = 0 ∨ length + exponent < -400 then some ⟨negative, 0, 0⟩
  else if 400 < length + exponent then none
  else do
    let (num, den) := scaled 10 digits 1 exponent
    let (significand, binary) ← nearestBinary? num den
    if significand = 0 then some ⟨negative, 0, 0⟩
    else
      let (shortest, place) ← (List.range 17).findSome? fun k => withDigits? significand binary (k + 1)
      let (shortest, place) := trim 20 shortest place
      some ⟨negative, shortest, place⟩

/-- The text of a fraction. -/
def render (f : Fraction) : String :=
  let digits := Nat.toDigits 10 f.digits
  let length : Int := digits.length
  let point := length + f.exponent
  let zeros (n : Int) : List Char := List.replicate n.toNat '0'
  let body :=
    if f.digits = 0 then "0.0".toList
    else if 0 ≤ f.exponent ∧ point ≤ 16 then digits ++ zeros f.exponent ++ ['.', '0']
    else if 0 < point ∧ point ≤ 16 then digits.take point.toNat ++ '.' :: digits.drop point.toNat
    else if -5 < point ∧ point ≤ 0 then '0' :: '.' :: zeros (-point) ++ digits
    else
      let mantissa := if length = 1 then digits else digits.take 1 ++ '.' :: digits.drop 1
      mantissa ++ 'e' :: (toString (point - 1)).toList
  String.ofList (if f.negative then '-' :: body else body)

end Fraction

/-- A number of a document. -/
inductive Number where
  /-- A whole number that is not negative. -/
  | natural (n : UInt64)
  /-- The negative of a positive number, down to `-2 ^ 63`. -/
  | negative (n : UInt64)
  /-- Any other number. -/
  | fraction (f : Fraction)
deriving DecidableEq

namespace Number

/-- The text of a number. -/
def render : Number → String
  | .natural n => toString n.toNat
  | .negative n => "-" ++ toString n.toNat
  | .fraction f => f.render

/-- The number `digits * 10 ^ exponent` with a sign, written with a fraction or an exponent or not; none past the
range. -/
def ofParts? (negative : Bool) (digits : Nat) (exponent : Int) (whole : Bool) : Option Number :=
  if whole ∧ ¬negative ∧ digits < UInt64.size then some (.natural (UInt64.ofNat digits))
  else if whole ∧ negative ∧ 0 < digits ∧ digits ≤ Nat.pow 2 63 then some (.negative (UInt64.ofNat digits))
  else (Fraction.ofDecimal? negative digits exponent).map .fraction

end Number

end DynamicFeeWallet
