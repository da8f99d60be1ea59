/-
  CommandLang/Proofs/Text/Case.lean
  =================================
  **Letter case within ASCII.**

  Two texts differ in the case of ASCII letters and in nothing else if they become the same text
  when the ASCII capitals are made small (`Text.small`).  So what does not depend on case is what
  does not change under `small`, and a cut that does not depend on case is one that `small` can be
  moved through.

  No class of characters that matters here tells a capital from its small letter; that is checked
  for the 26 letters and holds of all characters then (`apply_toLower`).
-/
import CommandLang.Numeral
import CommandLang.Proofs.Text
import CommandLang.Text.Name

namespace CommandLang

/-! ### One character -/

/-- Only a capital has another small form. -/
theorem toLower_cases (c : Char) :
    c.toLower = c ∨ ∃ k < 26, c = Char.ofNat (65 + k) ∧ c.toLower = Char.ofNat (97 + k) := by
  by_cases h : 65 ≤ c.toNat ∧ c.toNat ≤ 90
  · refine .inr ⟨c.toNat - 65, by omega, ?_, ?_⟩
    · rw [Nat.add_sub_cancel' h.1, Char.ofNat_toNat]
    · have hsmall : 97 + (c.toNat - 65) = c.toLower.toNat := by
        rw [toNat_toLower_of_capital h]
        omega
      rw [hsmall, Char.ofNat_toNat]
  · exact .inl (toLower_of_not_capital h)

/-- What is the same for each letter and its capital is the same for a character and its small
    form. -/
theorem apply_toLower {α : Type} {f : Char → α}
    (h : ∀ k < 26, f (Char.ofNat (97 + k)) = f (Char.ofNat (65 + k))) (c : Char) :
    f c.toLower = f c := by
  rcases toLower_cases c with heq | ⟨k, hk, hc, hlower⟩
  · rw [heq]
  · rw [hlower, h k hk, ← hc]

theorem isBlank_toLower (c : Char) : isBlank c.toLower = isBlank c := apply_toLower (by decide) c

theorem digitValue?_toLower (c : Char) : digitValue? c.toLower = digitValue? c :=
  apply_toLower (by decide +kernel) c

theorem isDigit_toLower (c : Char) : isDigit c.toLower = isDigit c := by
  rw [isDigit, digitValue?_toLower, isDigit]

theorem foldChar_toLower (c : Char) : foldChar c.toLower = foldChar c :=
  apply_toLower (by decide) c

theorem toLower_toLower (c : Char) : c.toLower.toLower = c.toLower := apply_toLower (by decide) c

/-- A character below the letters is the small form of no other. -/
theorem toLower_eq_iff_of_lt {x : Char} (hx : x.toNat < 65) (c : Char) : c.toLower = x ↔ c = x := by
  by_cases h : 65 ≤ c.toNat ∧ c.toNat ≤ 90
  · have hlower := toNat_toLower_of_capital h
    constructor
    · rintro rfl
      omega
    · rintro rfl
      omega
  · rw [toLower_of_not_capital h]

theorem beq_toLower_of_lt {x : Char} (hx : x.toNat < 65) (c : Char) :
    (c.toLower == x) = (c == x) := by
  rw [Bool.eq_iff_iff, beq_iff_eq, beq_iff_eq]
  exact toLower_eq_iff_of_lt hx c

namespace Text

/-- The text with its ASCII capitals made small. -/
def small (t : Text) : Text := t.map Char.toLower

variable {t u : Text} {p : Char → Bool}

@[simp] theorem small_nil : small [] = [] := rfl

@[simp] theorem small_cons (c : Char) (t : Text) : small (c :: t) = c.toLower :: small t := rfl

@[simp] theorem length_small (t : Text) : (small t).length = t.length := List.length_map _

theorem small_append (t u : Text) : small (t ++ u) = small t ++ small u := List.map_append

theorem small_small (t : Text) : small (small t) = small t := by
  rw [small, small, List.map_map]
  exact List.map_congr_left fun c _ => toLower_toLower c

theorem small_of_forall (h : ∀ c ∈ t, c.toLower = c) : small t = t :=
  (List.map_congr_left h).trans (List.map_id t)

theorem take_small (n : Nat) (t : Text) : (small t).take n = small (t.take n) := List.map_take.symm

theorem drop_small (n : Nat) (t : Text) : (small t).drop n = small (t.drop n) := List.map_drop.symm

theorem reverse_small (t : Text) : (small t).reverse = small t.reverse := List.map_reverse.symm

theorem isEmpty_small (t : Text) : (small t).isEmpty = t.isEmpty := by cases t <;> rfl

/-! ### Cuts that do not depend on case -/

theorem takeWhile_small (hp : ∀ c, p c.toLower = p c) (t : Text) :
    (small t).takeWhile p = small (t.takeWhile p) := by
  have hcomp : p ∘ Char.toLower = p := funext hp
  rw [small, List.takeWhile_map, hcomp]
  rfl

theorem dropWhile_small (hp : ∀ c, p c.toLower = p c) (t : Text) :
    (small t).dropWhile p = small (t.dropWhile p) := by
  have hcomp : p ∘ Char.toLower = p := funext hp
  rw [small, List.dropWhile_map, hcomp]
  rfl

theorem all_small (hp : ∀ c, p c.toLower = p c) (t : Text) : (small t).all p = t.all p := by
  have hcomp : p ∘ Char.toLower = p := funext hp
  rw [small, List.all_map, hcomp]

theorem dropSpaces_small (t : Text) : (small t).dropSpaces = small t.dropSpaces :=
  dropWhile_small (fun c => beq_toLower_of_lt (by decide) c) t

theorem cutAt_small {c : Char} (hc : c.toNat < 65) (t : Text) :
    (small t).cutAt c = (small (t.cutAt c).1, small (t.cutAt c).2) := by
  have hp : ∀ x : Char, decide (x.toLower ≠ c) = decide (x ≠ c) := by
    intro x
    simp only [ne_eq, toLower_eq_iff_of_lt hc]
  rw [cutAt, takeWhile_small hp, dropWhile_small hp, drop_small]
  rfl

theorem trimLeft_small (t : Text) : (small t).trimLeft = small t.trimLeft :=
  dropWhile_small isBlank_toLower t

theorem trimRight_small (t : Text) : (small t).trimRight = small t.trimRight := by
  rw [trimRight, reverse_small, dropWhile_small isBlank_toLower, reverse_small]
  rfl

theorem trim_small (t : Text) : (small t).trim = small t.trim := by
  rw [trim, trimLeft_small, trimRight_small]
  rfl

theorem isAllBlank_small (t : Text) : (small t).isAllBlank = t.isAllBlank :=
  all_small isBlank_toLower t

theorem splitOn_small {c : Char} (hc : c.toNat < 65) (t : Text) :
    splitOn c (small t) = (splitOn c t).map small := by
  induction t with
  | nil => rfl
  | cons x t ih =>
    simp only [small_cons, splitOn, toLower_eq_iff_of_lt hc]
    split
    · rw [ih]
      rfl
    · rw [ih]
      cases splitOn c t <;> rfl

/-! ### Names -/

theorem fold_small (t : Text) : fold (small t) = fold t := by
  induction t with
  | nil => rfl
  | cons c t ih => rw [small_cons, fold_cons, fold_cons, foldChar_toLower, ih]

theorem opensWith_small (t name : Text) : (small t).opensWith name = t.opensWith name := by
  rw [opensWith, take_small, fold_small, opensWith]

theorem head?_small_beq {c : Char} (hc : c.toNat < 65) (t : Text) :
    ((small t).head? == some c) = (t.head? == some c) := by
  cases t with
  | nil => rfl
  | cons x t =>
    have hbeq := beq_toLower_of_lt hc x
    simpa using hbeq

theorem denotes_small (t name : Text) : (small t).denotes name = t.denotes name := by
  rw [denotes, fold_small, opensWith_small, drop_small, head?_small_beq (by decide), denotes]

end Text

/-! ### Numbers -/

namespace Numeral

theorem ofDigits_small (t : Text) : ofDigits t.small = ofDigits t := by
  simp only [ofDigits, Text.small, List.foldl_map, digitValue?_toLower]

theorem readDigits_small (t : Text) : readDigits t.small = readDigits t := by
  simp only [readDigits, Text.length_small, ofDigits_small]

theorem splitSign_small (t : Text) :
    splitSign t.small = ((splitSign t).1, (splitSign t).2.small) := by
  cases t with
  | nil => rfl
  | cons c t =>
    by_cases hminus : c = '-'
    · subst hminus
      rfl
    · by_cases hplus : c = '+'
      · subst hplus
        rfl
      · have hminus' : c.toLower ≠ '-' := by
          rwa [ne_eq, toLower_eq_iff_of_lt (by decide)]
        have hplus' : c.toLower ≠ '+' := by
          rwa [ne_eq, toLower_eq_iff_of_lt (by decide)]
        simp [splitSign, hminus, hplus, hminus', hplus']

/-- The number that a text begins with does not depend on case. -/
theorem leading_small (t : Text) : leading t.small = leading t := by
  simp only [leading, Text.trimLeft_small, splitSign_small, Text.takeWhile_small isDigit_toLower,
    Text.isEmpty_small, readDigits_small]

end Numeral

end CommandLang
