import DynamicFeeWallet.Curve.Signature

/-!
# Private keys as text

A private key is given as 64 hexadecimal digits. Two marks may stand before them: one `0x` that belongs to the key,
and one, `0x` or `0X`, that belongs to the data. What is said of a refused key tells at most where it stops being
hexadecimal.
-/

namespace DynamicFeeWallet

/-- Why a text is no private key. -/
inductive KeyError where
  /-- It is not 32 bytes of hexadecimal data. -/
  | notHex (error : HexError)
  /-- Its number is zero or past the order of the curve. -/
  | outOfRange
deriving DecidableEq

/-- What is said of a text that is no private key. -/
def KeyError.message : KeyError → String
  | .notHex error => error.message
  | .outOfRange => "signature error"

namespace PrivateKey

/-- The text without one mark `0x`. -/
def unmarked (text : String) : String :=
  match text.toList with
  | '0' :: 'x' :: rest => String.ofList rest
  | _ => text

/-- Reads a private key. -/
def parse (text : String) : Except KeyError PrivateKey :=
  match Hex.decodeFixed 32 (unmarked text) with
  | .error error => .error (.notHex error)
  | .ok bytes =>
    match ofNat? bytes.toNat with
    | some key => .ok key
    | none => .error .outOfRange

end PrivateKey

end DynamicFeeWallet
