import DynamicFeeWallet.Bytes

/-!
# Base64

Three bytes are written as four characters of six bits each; equals signs fill the last four.
-/

namespace DynamicFeeWallet.Base64

/-- The character of six bits. -/
def sextet (n : Nat) : Char :=
  if n < 26 then Char.ofNat (65 + n)
  else if n < 52 then Char.ofNat (71 + n)
  else if n < 62 then Char.ofNat (n - 4)
  else if n = 62 then '+'
  else '/'

/-- The characters of up to three bytes. -/
def group (bytes : Bytes) : List Char :=
  let n := Bytes.toNat (bytes ++ List.replicate (3 - bytes.length) 0)
  let all := [n / 0x40000, n / 0x1000, n / 0x40, n].map fun k => sextet (k % 64)
  all.take (bytes.length + 1) ++ List.replicate (3 - bytes.length) '='

/-- The text of a byte string. -/
def encode : Bytes → List Char
  | a :: b :: c :: rest => group [a, b, c] ++ encode rest
  | [] => []
  | rest => group rest

end DynamicFeeWallet.Base64
