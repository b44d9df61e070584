import DynamicFeeWallet.Text.Hex

/-!
# Percent signs in URLs

A character that may not stand in a part of a URL is written by the bytes of its UTF-8 form, each as a percent sign
and two digits. Control characters and those beyond ASCII are written so in every part, and each part has some more.
-/

namespace DynamicFeeWallet.Percent

/-- A control character, or one beyond ASCII. -/
def isControl (c : Char) : Bool := c.toNat < 0x20 || 0x7f ≤ c.toNat

/-- May not stand in a fragment. -/
def isEscapedInFragment (c : Char) : Bool := isControl c || [' ', '"', '<', '>', '`'].contains c

/-- May not stand in a query; a single quote may not in that of a special scheme. -/
def isEscapedInQuery (special : Bool) (c : Char) : Bool :=
  isControl c || [' ', '"', '#', '<', '>'].contains c || special && c == '\''

/-- May not stand in a path. -/
def isEscapedInPath (c : Char) : Bool := isEscapedInFragment c || ['#', '?', '\x7b', '\x7d'].contains c

/-- May not stand in a user name or a password. -/
def isEscapedInCredentials (c : Char) : Bool :=
  isEscapedInPath c || ['/', ':', ';', '=', '@', '[', '\\', ']', '^', '|'].contains c

/-- A byte as a percent sign and two digits. -/
def byte (b : UInt8) : List Char := '%' :: (Hex.byteDigits b).map Char.toUpper

/-- A text with some of its characters written by their bytes. -/
def encode (isEscaped : Char → Bool) (text : List Char) : List Char :=
  text.flatMap fun c => if isEscaped c then (String.utf8EncodeChar c).flatMap byte else [c]

/-- The bytes of a text, where a percent sign and two digits stand for one byte. -/
def decode : Bytes → Bytes
  | 0x25 :: high :: low :: rest =>
    match Hex.digit? (Char.ofNat high.toNat), Hex.digit? (Char.ofNat low.toNat) with
    | some h, some l => UInt8.ofNat (h * 16 + l) :: decode rest
    | _, _ => 0x25 :: decode (high :: low :: rest)
  | b :: rest => b :: decode rest
  | [] => []
termination_by bytes => bytes.length

end DynamicFeeWallet.Percent
