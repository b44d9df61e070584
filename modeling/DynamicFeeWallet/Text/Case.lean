/-!
# Small letters

Names are compared in small letters; only the letters of ASCII have cases here.
-/

namespace DynamicFeeWallet.Text

/-- The text in small letters. -/
def lowerCase (text : String) : String := String.ofList (text.toList.map Char.toLower)

end DynamicFeeWallet.Text
