import DynamicFeeWallet.Text.Case

/-!
# Fee levels

How much a sender is ready to pay to be mined soon. A level picks one of the three reward percentiles that a fee
history is asked for.
-/

namespace DynamicFeeWallet

/-- A preference between cost and speed. -/
inductive FeeLevel where
  /-- The lowest fee. -/
  | low
  /-- The usual fee. -/
  | medium
  /-- The highest fee. -/
  | high
deriving DecidableEq

namespace FeeLevel

instance : Inhabited FeeLevel := ⟨medium⟩

/-- The place of the level's percentile in a row of rewards. -/
def rewardIndex : FeeLevel → Nat
  | low => 0
  | medium => 1
  | high => 2

/-- The name of the level. -/
def name : FeeLevel → String
  | low => "low"
  | medium => "medium"
  | high => "high"

instance : ToString FeeLevel where
  toString := name

/-- The level that a text names, whatever its case. -/
def ofText? (text : String) : Option FeeLevel :=
  [low, medium, high].find? fun level => level.name == Text.lowerCase text

/-- What is said of a text that names no level. -/
def unknownMessage (text : String) : String := s!"unknown fee level '{Text.lowerCase text}'"

/-- The percentiles of rewards that the levels stand for, in their order. -/
def percentiles : List UInt64 := [10, 50, 90]

end FeeLevel

end DynamicFeeWallet
