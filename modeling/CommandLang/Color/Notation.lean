/-
  CommandLang/Color/Notation.lean
  ===============================
  **The notations a colour may be given in.**

      #rrggbb        #aarrggbb        rgb(r,g,b)        rgba(r,g,b,a)

  Letter case does not matter and blanks around the whole are left out.  The two functional
  notations differ in what they take for a number:

    * in `rgba` each part is one to three digits with any blanks around them, and any other part
      makes the text no colour;
    * in `rgb` every part must be a whole number (`Numeral.whole`).  A text that is made of digits,
      blanks and commas and has three parts is taken at its word: a part that is no number is an
      error, not merely no colour.

  In both, a part above 255 makes the text no colour.
-/
import CommandLang.Color.Basic

namespace CommandLang.Color

/-! ### Hexadecimal notation -/

/-- The value of a hexadecimal digit. -/
def hexValue? (c : Char) : Option Nat :=
  if '0' ≤ c ∧ c ≤ '9' then some (c.toNat - '0'.toNat)
  else if 'a' ≤ c ∧ c ≤ 'f' then some (c.toNat - 'a'.toNat + 10)
  else if 'A' ≤ c ∧ c ≤ 'F' then some (c.toNat - 'A'.toNat + 10)
  else none

/-- The bytes that pairs of hexadecimal digits stand for. -/
def hexBytes? : Text → Option (List Int)
  | [] => some []
  | high :: low :: t => do
    let h ← hexValue? high
    let l ← hexValue? low
    let bytes ← hexBytes? t
    return (16 * h + l : Nat) :: bytes
  | [_] => none

/-- What follows the `#`: three bytes, or four with the opacity first. -/
def ofHexDigits? (digits : Text) : Option Color :=
  match hexBytes? digits with
  | some [r, g, b] => some ⟨r, g, b, 255⟩
  | some [a, r, g, b] => some ⟨r, g, b, a⟩
  | _ => none

/-! ### Functional notation -/

/-- The text between `name(` and a closing parenthesis at the end. -/
def callBody? (name t : Text) : Option Text := do
  Text.beforeLast? ')' (← Text.afterWord? (name ++ "(") t)

/-- A part of `rgba`: one to three digits between blanks, of value at most 255. -/
def channel? (part : Text) : Option Int :=
  let run := part.trim
  if 1 ≤ run.length ∧ run.length ≤ 3 ∧ run.all isDigit ∧ Numeral.ofDigits run ≤ 255 then
    some (Numeral.ofDigits run : Nat)
  else none

def ofRgbaBody? (body : Text) : Option Color :=
  match (body.splitOn ',').mapM channel? with
  | some [r, g, b, a] => some ⟨r, g, b, a⟩
  | _ => none

/-- A character that may occur in the body of `rgb(…)`. -/
def isRgbCharacter (c : Char) : Bool := isDigit c || isBlank c || c == ','

def ofRgbBody (body : Text) : Except Numeral.Error (Option Color) :=
  if body.all isRgbCharacter then
    match body.splitOn ',' with
    | [r, g, b] => do
      let r ← Numeral.whole r
      let g ← Numeral.whole g
      let b ← Numeral.whole b
      return if r ≤ 255 ∧ g ≤ 255 ∧ b ≤ 255 then some ⟨r, g, b, 255⟩ else none
    | _ => return none
  else return none

/-! ### All notations -/

/-- The colour that a text denotes, if it denotes one. -/
def read (t : Text) : Except Numeral.Error (Option Color) :=
  let t := t.trim
  match t with
  | '#' :: digits => .ok (ofHexDigits? digits)
  | _ =>
    match callBody? "rgba" t with
    | some body => .ok (ofRgbaBody? body)
    | none =>
      match callBody? "rgb" t with
      | some body => ofRgbBody body
      | none => .ok none

end CommandLang.Color
