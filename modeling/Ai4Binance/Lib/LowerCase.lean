/-
`str.lower`, of which the ASCII letters are fixed.
-/
import Ai4Binance.Lib.Text

namespace Text

/-- The lower-case mapping of the Unicode character database, in which a letter may depend on its
neighbours. -/
class LowerData where
  lower : String → String
  lower_ascii : ∀ s : String, (∀ c ∈ s.toList, c.toNat < 128) →
    lower s = String.ofList (s.toList.map Char.toLower)

/-- The mapping of the ASCII letters alone. -/
instance asciiLower : LowerData where
  lower s := String.ofList (s.toList.map Char.toLower)
  lower_ascii _ _ := rfl

/-- `token in text`. -/
def containsText (token text : String) : Bool := token.toList <:+: text.toList

end Text
