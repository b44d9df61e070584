import DynamicFeeWallet.Address

/-!
# The texts in requests

What a text in a request has to look like: hexadecimal data, data of a given length, a block, or a row of percentiles. The
length is counted in bytes of UTF-8, two to a byte of data.
-/

namespace DynamicFeeWallet

/-- Why the arguments of a request are refused. -/
inductive ArgumentError where
  /-- A text is not hexadecimal data. -/
  | notHex
  /-- A text names no address. -/
  | notAddress
  /-- A hash is not 32 bytes long. -/
  | wrongHashLength
  /-- A compound argument, or one of its members, has the wrong shape. -/
  | badField (name : String)
  /-- A text names no block. -/
  | badBlock
  /-- A number of blocks is zero. -/
  | badBlockCount
  /-- Percentiles do not increase strictly from 0 to 100. -/
  | badPercentiles
deriving DecidableEq

namespace ArgumentError

/-- What is said of refused arguments. -/
def message : ArgumentError → String
  | .notHex => "invalid hex data"
  | .notAddress => "invalid address"
  | .wrongHashLength => "invalid hash length"
  | .badField name => s!"invalid field '{name}'"
  | .badBlock => "invalid block number"
  | .badBlockCount => "invalid block count"
  | .badPercentiles => "invalid reward percentiles"

/-- The number that stands for the cause. -/
def code : ArgumentError → Nat
  | .notHex => 4
  | .notAddress => 5
  | .wrongHashLength => 6
  | .badField _ => 8
  | .badBlock => 9
  | .badBlockCount => 10
  | .badPercentiles => 38

end ArgumentError

namespace Argument

/-- Hexadecimal digits, with or without a mark. -/
def isHex (text : String) : Bool := (Hex.unmarked text.toList).all Hex.isDigit

/-- Hexadecimal digits after a mark. -/
def isMarkedHex (text : String) : Bool :=
  match Hex.marked? text.toList with
  | some digits => digits.all Hex.isDigit
  | none => false

/-- The digits of the text are as many as `n` bytes have. -/
def hasByteLength (text : String) (n : Nat) : Bool :=
  (Hex.body text).length == 2 * n

/-- The words that stand for a block. -/
def blockTags : List String := ["latest", "earliest", "pending"]

/-- The text names a block, by a word or by its number. -/
def isBlock (text : String) : Bool := blockTags.contains text || isMarkedHex text

/-- Percentiles increase strictly and end at 100 at most. -/
def arePercentiles (percentiles : List UInt64) : Bool :=
  percentiles.all (· ≤ 100) && decide (percentiles.Pairwise (· < ·))

/-- Refuses with this error unless the condition holds. -/
def ensure (condition : Bool) (error : ArgumentError) : Except ArgumentError Unit :=
  if condition then .ok () else .error error

/-- Hexadecimal data. -/
def checkHex (text : String) : Except ArgumentError Unit := ensure (isHex text) .notHex

/-- Hexadecimal data of 32 bytes. -/
def checkHash (text : String) : Except ArgumentError Unit := do
  checkHex text
  ensure (hasByteLength text 32) .wrongHashLength

/-- An address. -/
def checkAddress (text : String) : Except ArgumentError Unit := ensure (Address.isAddress text) .notAddress

/-- A block. -/
def checkBlock (text : String) : Except ArgumentError Unit := ensure (isBlock text) .badBlock

end Argument

end DynamicFeeWallet
