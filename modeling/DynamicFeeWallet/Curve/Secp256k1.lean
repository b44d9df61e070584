/-!
# The curve secp256k1

Points of `y² = x³ + 7` over the integers modulo the field prime. Multiples of a point are computed in projective
coordinates `(x / z², y / z³)`, where `z = 0` is the point at infinity, and brought back to plane coordinates at the
end.
-/

namespace DynamicFeeWallet.Secp256k1

/-- The prime of the field, `2 ^ 256 - 2 ^ 32 - 977`. -/
def fieldPrime : Nat := 0xfffffffffffffffffffffffffffffffffffffffffffffffffffffffefffffc2f

/-- The number of points, a prime. -/
def order : Nat := 0xfffffffffffffffffffffffffffffffebaaedce6af48a03bbfd25e8cd0364141

/-- Half the number of points, rounded down. -/
def halfOrder : Nat := 0x7fffffffffffffffffffffffffffffff5d576e7357a4501ddfe92f46681b20a0

theorem order_eq : order = 2 * halfOrder + 1 := by decide

/-- A power modulo `m`, for an exponent of at most `bits` bits. -/
def powMod (m base : Nat) : Nat → Nat → Nat
  | 0, _ => 1
  | bits + 1, exponent =>
    let root := powMod m base bits (exponent / 2)
    if exponent % 2 = 1 then root * root % m * base % m else root * root % m

/-- The inverse modulo a prime `m` of 256 bits. -/
def inverseMod (m a : Nat) : Nat := powMod m a 256 (m - 2)

/-- The difference modulo `m` of two numbers below `m`. -/
def subMod (m a b : Nat) : Nat := (a + (m - b)) % m

/-- A point other than infinity, in plane coordinates. -/
structure Point where
  (x y : Nat)
deriving DecidableEq

/-- The generator. -/
def generator : Point where
  x := 0x79be667ef9dcbbac55a06295ce870b07029bfcdb2dce28d959f2815b16f81798
  y := 0x483ada7726a3c4655da4fbfc0e1108a8fd17b448a68554199c47d08ffb10d4b8

/-- A point in projective coordinates. -/
structure Projective where
  (x y z : Nat)

namespace Projective

/-- The point at infinity. -/
def infinity : Projective := ⟨1, 1, 0⟩

/-- A plane point in projective coordinates. -/
def ofPoint (p : Point) : Projective := ⟨p.x, p.y, 1⟩

/-- Twice a point. -/
def double (p : Projective) : Projective :=
  let m := fieldPrime
  let ySquare := p.y * p.y % m
  let s := 4 * p.x * ySquare % m
  let slope := 3 * p.x * p.x % m
  let x := subMod m (slope * slope % m) (2 * s % m)
  let y := subMod m (slope * subMod m s x % m) (8 * ySquare * ySquare % m)
  ⟨x, y, 2 * p.y * p.z % m⟩

/-- The sum of two points. -/
def add (p q : Projective) : Projective :=
  if p.z = 0 then q
  else if q.z = 0 then p
  else
    let m := fieldPrime
    let zzp := p.z * p.z % m
    let zzq := q.z * q.z % m
    let xp := p.x * zzq % m
    let xq := q.x * zzp % m
    let yp := p.y * zzq % m * q.z % m
    let yq := q.y * zzp % m * p.z % m
    if xp = xq then
      if yp = yq then double p else infinity
    else
      let h := subMod m xq xp
      let r := subMod m yq yp
      let hh := h * h % m
      let hhh := hh * h % m
      let v := xp * hh % m
      let x := subMod m (subMod m (r * r % m) hhh) (2 * v % m)
      let y := subMod m (r * subMod m v x % m) (yp * hhh % m)
      ⟨x, y, p.z * q.z % m * h % m⟩

/-- The multiple of a point by a number of at most `bits` bits. -/
def scale (p : Projective) : Nat → Nat → Projective
  | 0, _ => infinity
  | bits + 1, k =>
    let half := double (scale p bits (k / 2))
    if k % 2 = 1 then add half p else half

/-- The plane point, unless it is the point at infinity. -/
def toPoint? (p : Projective) : Option Point :=
  if p.z = 0 then none
  else
    let m := fieldPrime
    let inverse := inverseMod m p.z
    let square := inverse * inverse % m
    some ⟨p.x * square % m, p.y * square % m * inverse % m⟩

end Projective

/-- The multiple of a point by a number below `2 ^ 256`, unless it is the point at infinity. -/
def Point.multiple? (p : Point) (k : Nat) : Option Point := ((Projective.ofPoint p).scale 256 k).toPoint?

/-- The sum `a * p + b * q`, unless it is the point at infinity. -/
def combine? (a : Nat) (p : Point) (b : Nat) (q : Point) : Option Point :=
  (((Projective.ofPoint p).scale 256 a).add ((Projective.ofPoint q).scale 256 b)).toPoint?

/-- The point with this `x` whose `y` is odd or even as asked, if `x` is the coordinate of a point. -/
def lift? (x : Nat) (odd : Bool) : Option Point :=
  if fieldPrime ≤ x then none
  else
    let square := (x * x % fieldPrime * x + 7) % fieldPrime
    let root := powMod fieldPrime square 256 ((fieldPrime + 1) / 4)
    if root * root % fieldPrime ≠ square then none
    else if (root % 2 == 1) = odd then some ⟨x, root⟩
    else some ⟨x, fieldPrime - root⟩

end DynamicFeeWallet.Secp256k1
