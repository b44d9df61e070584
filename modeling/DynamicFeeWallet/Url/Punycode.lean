/-!
# Punycode

A label of any characters is written in ASCII: its ASCII characters in their order, and then for every other one, from
the lowest to the highest, the distance from the one before as a number of digits. Distances grow with the text, and a
bias that follows them keeps the digits few.
-/

namespace DynamicFeeWallet.Punycode

/-- A digit of a distance: a letter, or a decimal digit from 26 on. -/
def digitChar (d : Nat) : Char := Char.ofNat (if d < 26 then 97 + d else 22 + d)

/-- The value of a digit. -/
def digit? (c : Char) : Option Nat :=
  if 'a' ≤ c ∧ c ≤ 'z' then some (c.toNat - 97) else if '0' ≤ c ∧ c ≤ '9' then some (c.toNat - 22) else none

/-- Digits below this are the last one of a distance; `place` goes up by 36 from digit to digit. -/
def threshold (bias place : Nat) : Nat := min (max (place - bias) 1) 26

theorem threshold_pos (bias place : Nat) : 0 < threshold bias place := by
  unfold threshold
  omega

theorem threshold_le (bias place : Nat) : threshold bias place ≤ 26 := by
  unfold threshold
  omega

/-- Brings a distance down to at most 455 by steps of 35, and adds 36 for each. -/
def settle (distance place : Nat) : Nat :=
  if 455 < distance then settle (distance / 35) (place + 36) else place + 36 * distance / (distance + 38)
termination_by distance

/-- The bias after a distance, when that many characters are there. -/
def adapt (distance count : Nat) (first : Bool) : Nat :=
  let scaled := if first then distance / 700 else distance / 2
  settle (scaled + scaled / count) 0

/-- The digits of a distance. -/
def distanceDigits (bias place distance : Nat) : List Char :=
  let t := threshold bias place
  if distance < t then [digitChar distance]
  else digitChar (t + (distance - t) % (36 - t)) :: distanceDigits bias (place + 36) ((distance - t) / (36 - t))
termination_by distance
decreasing_by
  have := threshold_pos bias place
  exact Nat.lt_of_le_of_lt (Nat.div_le_self _ _) (by omega)

/-- How far the writing has come: the distance so far, the bias, and the number of characters written. -/
structure Progress where
  (distance bias count : Nat) (first : Bool) (digits : List Char)

/-- Passes a character while those of one number are written. -/
def pass (number : Nat) (p : Progress) (c : Char) : Progress :=
  if c.toNat < number then { p with distance := p.distance + 1 }
  else if c.toNat = number then
    { distance := 0
      bias := adapt p.distance (p.count + 1) p.first
      count := p.count + 1
      first := false
      digits := p.digits ++ distanceDigits p.bias 36 p.distance }
  else p

/-- Writes the characters of these numbers, from the lowest on; `next` is the lowest number that is left. -/
def writeNumbers (label : List Char) : List Nat → Nat → Progress → Progress
  | [], _, p => p
  | number :: rest, next, p =>
    let p := label.foldl (pass number) { p with distance := p.distance + (number - next) * (p.count + 1) }
    writeNumbers label rest (number + 1) { p with distance := p.distance + 1 }

/-- A character of ASCII. -/
def isBasic (c : Char) : Bool := c.toNat < 0x80

/-- Writes a label. -/
def encode (label : List Char) : List Char :=
  let basic := label.filter isBasic
  let numbers := ((label.filter (!isBasic ·)).map Char.toNat).mergeSort.eraseDups
  basic ++ (if basic.isEmpty then [] else ['-']) ++
    (writeNumbers label numbers 0x80 ⟨0, 72, basic.length, true, []⟩).digits

/-- Reads the digits of a distance in front: the distance and what is left. -/
def readDistance (bias : Nat) : Nat → Nat → Nat → List Char → Option (Nat × List Char)
  | _, _, _, [] => none
  | place, weight, distance, c :: rest => do
    let d ← digit? c
    let t := threshold bias place
    if d < t then some (distance + d * weight, rest)
    else readDistance bias (place + 36) (weight * (36 - t)) (distance + d * weight) rest

/-- Reads distances and puts a character where each of them leads. -/
def place : Nat → Nat → Nat → Bool → List Char → List Char → Option (List Char)
  | _, _, _, _, label, [] => some label
  | 0, _, _, _, _, _ => none
  | fuel + 1, bias, position, first, label, input => do
    let (distance, rest) ← readDistance bias 36 1 0 input
    let count := label.length + 1
    -- one number combines the character, by quotient, and its place, by remainder
    let total := position + distance
    let number := total / count
    if number.isValidChar ∧ 0x80 ≤ number then
      let spot := total % count
      place fuel (adapt distance count first) (number * (count + 1) + spot + 1) false
        (label.insertIdx spot (Char.ofNat number)) rest
    else none

/-- The text before the last hyphen, and what stands after it. -/
def atLastHyphen (text : List Char) : List Char × List Char :=
  let after := (text.reverse.takeWhile (· != '-')).reverse
  (text.take (text.length - after.length - 1), after)

/-- Reads a label. -/
def decode? (text : List Char) : Option (List Char) :=
  let (basic, digits) := atLastHyphen text
  place digits.length 72 (0x80 * (basic.length + 1)) true basic digits

end DynamicFeeWallet.Punycode
