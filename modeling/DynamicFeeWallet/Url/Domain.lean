import DynamicFeeWallet.Bytes
import DynamicFeeWallet.Text.Pieces
import DynamicFeeWallet.Url.Punycode

/-!
# Domain names

A domain name is a row of labels with points between them. Capitals become small letters, forms of a letter that
differ only in looks become the letter, and characters that show nothing are dropped. A label that is not all ASCII
then is written in punycode after `xn--`; one that is given in that form has to stand for a label that would be
written so.
-/

namespace DynamicFeeWallet.Domain

/-- Rows of capitals, and how far their small letters are behind them. -/
def capitalRows : List (Nat × Nat × Nat) :=
  [(0x41, 0x5a, 32), (0xc0, 0xd6, 32), (0xd8, 0xde, 32), (0x386, 0x386, 38), (0x388, 0x38a, 37), (0x38c, 0x38c, 64),
    (0x38e, 0x38f, 63), (0x391, 0x3a1, 32), (0x3a3, 0x3ab, 32), (0x400, 0x40f, 80),
    (0x410, 0x42f, 32), (0x531, 0x556, 48), (0x10a0, 0x10c5, 7264)]

/-- Rows in which each capital is followed by its small letter: the first capital and the last. -/
def pairRows : List (Nat × Nat) :=
  [(0x100, 0x12e), (0x134, 0x136), (0x139, 0x13d), (0x141, 0x147), (0x14a, 0x176), (0x179, 0x17d), (0x1cd, 0x1db),
    (0x1de, 0x1ee), (0x1f8, 0x21e), (0x222, 0x232), (0x370, 0x372), (0x3d8, 0x3ee), (0x460, 0x480), (0x48a, 0x4be),
    (0x4c1, 0x4cd), (0x4d0, 0x52e), (0x1e00, 0x1e94), (0x1ea0, 0x1efe)]

/-- Characters that show nothing and are dropped. -/
def droppedRows : List (Nat × Nat) :=
  [(0xad, 0xad), (0x200b, 0x200b), (0x2060, 0x2060), (0x2064, 0x2064), (0xfe00, 0xfe0f), (0xfeff, 0xfeff)]

/-- Characters that no domain name may hold: controls, blanks, marks of direction, and those without a meaning of
their own. -/
def refusedRows : List (Nat × Nat) :=
  [(0x80, 0xa0), (0xa8, 0xa8), (0xaf, 0xaf), (0xb4, 0xb4), (0xb8, 0xb8), (0x1680, 0x1680), (0x180e, 0x180e),
    (0x2000, 0x200a), (0x200c, 0x200f), (0x2028, 0x202f), (0x205f, 0x205f), (0x2061, 0x2063), (0x2065, 0x206f),
    (0x2ff0, 0x2fff), (0x3000, 0x3000), (0xe000, 0xf8ff), (0xfdd0, 0xfdef), (0xfff0, 0xffff), (0x1fffe, 0x1ffff),
    (0xe0000, 0x10ffff)]

/-- Single characters that stand for others. -/
def otherForms : List (Char × String) :=
  [('ª', "a"), ('º', "o"), ('¹', "1"), ('²', "2"), ('³', "3"), ('µ', "μ"), ('İ', "i̇"), ('Ĳ', "ij"),
    ('ĳ', "ij"), ('ŉ', "ʼn"), ('Ÿ', "ÿ"), ('ſ', "s"), ('¼', "1⁄4"), ('½', "1⁄2"), ('¾', "3⁄4"), ('ẞ', "ß"), ('。', "."),
    ('｡', "."), ('\u212a', "k"), ('\u212b', "å"), ('\u2126', "ω"), ('™', "tm"), ('℠', "sm"), ('№', "no"), ('ﬀ', "ff"),
    ('ﬁ', "fi"), ('ﬂ', "fl")]

/-- The number lies in one of the rows. -/
def isIn (rows : List (Nat × Nat)) (n : Nat) : Bool := rows.any fun (first, last) => first ≤ n && n ≤ last

/-- What a character becomes in a domain name, if it may stand there. -/
def mapped (c : Char) : Option (List Char) :=
  let n := c.toNat
  if isIn refusedRows n then none
  else if isIn droppedRows n then some []
  else
    match otherForms.lookup c with
    | some form => some form.toList
    | none =>
      if 0xff01 ≤ n ∧ n ≤ 0xff5e then some [(Char.ofNat (n - 0xfee0)).toLower]
      else
        match capitalRows.find? fun (first, last, _) => first ≤ n && n ≤ last with
        | some (_, _, behind) => some [Char.ofNat (n + behind)]
        | none =>
          match pairRows.find? fun (first, last) => first ≤ n && n ≤ last with
          | some (first, _) => some [if (n - first) % 2 = 0 then Char.ofNat (n + 1) else c]
          | none => some [c]

/-- ASCII characters that no domain name may hold. -/
def isForbidden (c : Char) : Bool :=
  c.toNat ≤ 0x20 || c == '\x7f' || ['%', '#', '/', ':', '<', '>', '?', '@', '[', '\\', ']', '^', '|'].contains c

/-- The mark of a label in punycode. -/
def mark : List Char := ['x', 'n', '-', '-']

/-- A label that was read from punycode would be written so: it is not all ASCII, and its characters stand for
themselves. -/
def isDecoded (label : List Char) : Bool :=
  label.any (!Punycode.isBasic ·) && label.all fun c => mapped c == some [c] && !isForbidden c

/-- A label in ASCII, if it is one that may be. -/
def labelToAscii? (label : List Char) : Option (List Char) :=
  if mark.isPrefixOf label then
    match Punycode.decode? (label.drop mark.length) with
    | some decoded => if isDecoded decoded then some label else none
    | none => none
  else if label.all Punycode.isBasic then some label
  else some (mark ++ Punycode.encode label)

/-- The domain name that the bytes of a text write, in ASCII. -/
def ofBytes? (bytes : Bytes) : Option (List Char) := do
  let text ← String.fromUTF8? (ByteArray.mk bytes.toArray)
  let chars := (← text.toList.mapM mapped).flatten
  if chars.any isForbidden then none
  else
    let labels ← (Text.pieces (· == '.') chars).mapM labelToAscii?
    some (List.intercalate ['.'] labels)

end DynamicFeeWallet.Domain
