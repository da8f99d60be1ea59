/-
  CommandLang/Color/Basic.lean
  ============================
  **Colours and their hexadecimal form.**

  A colour has three channels and an opacity.  A colour that was read from text has all four between
  0 and 255 (`Color.InRange`), but a colour is not bound to that range, and its hexadecimal form is
  defined beyond it: each channel takes at least two characters, a minus sign being one of them.
-/
import CommandLang.Numeral

namespace CommandLang

/-- A colour; it is opaque at `alpha` 255. -/
structure Color where
  red : Int
  green : Int
  blue : Int
  alpha : Int := 255
deriving DecidableEq, Repr

namespace Color

/-- A value that a channel of one byte can hold. -/
def IsChannel (n : Int) : Prop := 0 ≤ n ∧ n ≤ 255

instance (n : Int) : Decidable (IsChannel n) := inferInstanceAs (Decidable (_ ∧ _))

def InRange (c : Color) : Prop :=
  IsChannel c.red ∧ IsChannel c.green ∧ IsChannel c.blue ∧ IsChannel c.alpha

instance (c : Color) : Decidable c.InRange := inferInstanceAs (Decidable (_ ∧ _))

/-- One channel in hexadecimal digits, filled with zeros up to two characters. -/
def writeChannel : Int → Text
  | .ofNat n => Text.hexCode 2 n
  | .negSucc n => '-' :: Text.hexCode 1 (n + 1)

/-- The colour as `#rrggbb`, or as `#aarrggbb` if it is not opaque. -/
def hex (c : Color) : Text :=
  let rgb := writeChannel c.red ++ writeChannel c.green ++ writeChannel c.blue
  if c.alpha = 255 then '#' :: rgb else '#' :: writeChannel c.alpha ++ rgb

end Color

end CommandLang
