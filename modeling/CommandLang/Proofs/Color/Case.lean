/-
  CommandLang/Proofs/Color/Case.lean
  ==================================
  **Colours do not depend on the case of letters**, in any of their notations (`read_small`), nor do
  the failures to read one.
-/
import CommandLang.Color.Notation
import CommandLang.Proofs.Text.Case

namespace CommandLang.Color

theorem hexValue?_toLower (c : Char) : hexValue? c.toLower = hexValue? c :=
  apply_toLower (by decide) c

theorem hexBytes?_small (t : Text) : hexBytes? t.small = hexBytes? t := by
  fun_induction hexBytes? t with
  | case1 => rfl
  | case2 high low t ih =>
    simp only [Text.small_cons, hexBytes?, hexValue?_toLower, ih]
  | case3 c => rfl

theorem ofHexDigits?_small (t : Text) : ofHexDigits? t.small = ofHexDigits? t := by
  rw [ofHexDigits?, hexBytes?_small, ofHexDigits?]

/-! ### Functional notation -/

theorem afterWord?_small (word t : Text) :
    Text.afterWord? word t.small = (Text.afterWord? word t).map Text.small := by
  have hword : (t.small.take word.length).map Char.toLower =
      (t.take word.length).map Char.toLower := by
    rw [Text.take_small]
    exact Text.small_small _
  rw [Text.afterWord?, hword, Text.drop_small, Text.afterWord?]
  split <;> rfl

theorem beforeLast?_small {c : Char} (hc : c.toNat < 65) (t : Text) :
    Text.beforeLast? c t.small = (Text.beforeLast? c t).map Text.small := by
  have hlast : t.small.getLast? = some c ↔ t.getLast? = some c := by
    rw [Text.small, List.getLast?_map, Option.map_eq_some_iff]
    simp only [toLower_eq_iff_of_lt hc, exists_eq_right]
  simp only [Text.beforeLast?, hlast]
  split
  · rw [Text.small, ← List.map_dropLast]
    rfl
  · rfl

theorem callBody?_small (name t : Text) :
    callBody? name t.small = (callBody? name t).map Text.small := by
  rw [callBody?, afterWord?_small, callBody?]
  cases Text.afterWord? (name ++ "(") t with
  | none => rfl
  | some inner => exact beforeLast?_small (by decide) inner

theorem channel?_small (part : Text) : channel? part.small = channel? part := by
  simp only [channel?, Text.trim_small, Text.length_small, Numeral.ofDigits_small,
    Text.all_small isDigit_toLower]

theorem ofRgbaBody?_small (body : Text) : ofRgbaBody? body.small = ofRgbaBody? body := by
  have hchannel : channel? ∘ Text.small = channel? := funext channel?_small
  have hparts : (body.small.splitOn ',').mapM channel? = (body.splitOn ',').mapM channel? := by
    rw [Text.splitOn_small (by decide), List.mapM_map, hchannel]
  simp only [ofRgbaBody?, hparts]

theorem isRgbCharacter_toLower (c : Char) : isRgbCharacter c.toLower = isRgbCharacter c := by
  rw [isRgbCharacter, isDigit_toLower, isBlank_toLower, beq_toLower_of_lt (by decide),
    isRgbCharacter]

/-- The body of `rgb(…)` has no letters, so nothing becomes small in it. -/
theorem toLower_of_isRgbCharacter {c : Char} (h : isRgbCharacter c) : c.toLower = c := by
  rcases toLower_cases c with hlower | ⟨k, hk, rfl, -⟩
  · exact hlower
  · have hnone : ∀ k < 26, isRgbCharacter (Char.ofNat (65 + k)) = false := by decide
    rw [hnone k hk] at h
    cases h

theorem ofRgbBody_small (body : Text) : ofRgbBody body.small = ofRgbBody body := by
  by_cases hall : body.all isRgbCharacter
  · have hsmall : body.small = body := Text.small_of_forall fun c hc =>
      toLower_of_isRgbCharacter (List.all_eq_true.1 hall c hc)
    rw [hsmall]
  · rw [ofRgbBody, Text.all_small isRgbCharacter_toLower, if_neg hall, ofRgbBody, if_neg hall]

/-- What a text denotes in one of the functional notations. -/
def ofCall (t : Text) : Except Numeral.Error (Option Color) :=
  match callBody? "rgba" t with
  | some body => .ok (ofRgbaBody? body)
  | none =>
    match callBody? "rgb" t with
    | some body => ofRgbBody body
    | none => .ok none

theorem read_of_hash {t digits : Text} (h : t.trim = '#' :: digits) :
    read t = .ok (ofHexDigits? digits) := by
  simp only [read, h]

theorem read_of_not_hash {t : Text} (h : ∀ digits, t.trim ≠ '#' :: digits) :
    read t = ofCall t.trim := by
  rw [read]
  split
  · rename_i digits heq
    exact absurd heq (h digits)
  · rfl

theorem ofCall_small (t : Text) : ofCall t.small = ofCall t := by
  rw [ofCall, callBody?_small, callBody?_small, ofCall]
  cases callBody? "rgba" t with
  | some body => exact congrArg Except.ok (ofRgbaBody?_small body)
  | none =>
    cases callBody? "rgb" t with
    | some body => exact ofRgbBody_small body
    | none => rfl

/-! ### All notations -/

/-- **A colour is read from a text whatever the case of its letters.** -/
theorem read_small (t : Text) : read t.small = read t := by
  by_cases hhash : ∃ digits, t.trim = '#' :: digits
  · obtain ⟨digits, hdigits⟩ := hhash
    have hsmall : t.small.trim = '#' :: Text.small digits := by
      rw [Text.trim_small, hdigits]
      rfl
    rw [read_of_hash hsmall, read_of_hash hdigits, ofHexDigits?_small]
  · have hne : ∀ digits, t.trim ≠ '#' :: digits := fun digits h => hhash ⟨digits, h⟩
    have hsmall : ∀ digits, t.small.trim ≠ '#' :: digits := by
      intro digits heq
      rw [Text.trim_small] at heq
      obtain ⟨c, u, htrim, hc, -⟩ := List.map_eq_cons_iff.1 heq
      rw [toLower_eq_iff_of_lt (by decide)] at hc
      subst hc
      exact hne u htrim
    rw [read_of_not_hash hsmall, read_of_not_hash hne, Text.trim_small, ofCall_small]

end CommandLang.Color
