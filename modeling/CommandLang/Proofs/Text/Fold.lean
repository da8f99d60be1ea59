/-
  CommandLang/Proofs/Text/Fold.lean
  =================================
  **How long a folded text is.**

  No character folds to nothing, so folding never shortens a text.  It lengthens one if a character
  of it folds to several.  Of those, nine fold to letters of ASCII only (`ligatures`), and no others
  can be in a text that is like a text within ASCII (`length_eq_iff_of_fold_eq`).

  Digits fold to themselves, so that texts that are alike have the same ones.
-/
import CommandLang.Proofs.Numeral
import CommandLang.Proofs.Text
import Mathlib.Data.List.Infix

namespace CommandLang

/-! ### One character -/

theorem foldExpansions_long : ∀ e ∈ foldExpansions, 2 ≤ e.2.length := by decide +kernel

theorem length_foldChar (c : Char) :
    (foldChar c).length = 1 ∨
      ∃ codes, (c.toNat, codes) ∈ foldExpansions ∧ foldChar c = codes.map Char.ofNat := by
  by_cases hascii : c.toNat < 0x80
  · left
    rw [foldChar, if_pos hascii]
    rfl
  · rw [foldChar, if_neg hascii]
    cases hfind : foldExpansions.find? (·.1 == c.toNat) with
    | some e =>
      right
      obtain ⟨code, codes⟩ := e
      have hcode : code = c.toNat := by simpa using List.find?_some hfind
      subst hcode
      exact ⟨codes, List.mem_of_find?_eq_some hfind, rfl⟩
    | none =>
      left
      cases foldRuns.find? (·.covers c.toNat) <;> rfl

theorem one_le_length_foldChar (c : Char) : 1 ≤ (foldChar c).length := by
  rcases length_foldChar c with hone | ⟨codes, hlisted, hfold⟩
  · omega
  · have hlong := foldExpansions_long _ hlisted
    rw [hfold, List.length_map]
    exact Nat.le_of_succ_le hlong

theorem length_foldChar_of_ascii {c : Char} (h : c.toNat < 0x80) : (foldChar c).length = 1 := by
  rw [foldChar, if_pos h]
  rfl

theorem toNat_of_mem_foldChar_of_ascii {c x : Char} (h : c.toNat < 0x80) (hx : x ∈ foldChar c) :
    x.toNat < 0x80 := by
  rw [foldChar, if_pos h, List.mem_singleton] at hx
  subst hx
  by_cases hcapital : 65 ≤ c.toNat ∧ c.toNat ≤ 90
  · rw [toNat_toLower_of_capital hcapital]
    omega
  · rwa [toLower_of_not_capital hcapital]

/-- The characters that fold to two or three letters of ASCII: those for `ss`, `ff`, `fi`, `fl`,
    `ffi`, `ffl` and `st`. -/
def ligatures : Text := "ßẞﬀﬁﬂﬃﬄﬅﬆ"

theorem foldExpansions_ascii :
    ∀ e ∈ foldExpansions, (∀ n ∈ e.2, n < 0x80) → Char.ofNat e.1 ∈ ligatures := by
  decide +kernel

theorem length_foldChar_of_mem_ligatures : ∀ c ∈ ligatures, 2 ≤ (foldChar c).length := by
  decide +kernel

theorem length_foldChar_of_not_mem_ligatures {c : Char} (hc : c ∉ ligatures)
    (hascii : ∀ x ∈ foldChar c, x.toNat < 0x80) : (foldChar c).length = 1 := by
  rcases length_foldChar c with hone | ⟨codes, hlisted, hfold⟩
  · exact hone
  · exfalso
    apply hc
    rw [← Char.ofNat_toNat c]
    apply foldExpansions_ascii _ hlisted
    intro n hn
    have hscalar := foldExpansions_letters _ hlisted n hn
    have hx : Char.ofNat n ∈ foldChar c := by
      rw [hfold]
      exact List.mem_map_of_mem hn
    have hsmall := hascii _ hx
    rwa [toNat_ofNat_of_scalar (by omega)] at hsmall

/-! ### Digits -/

theorem digitZeros_letters : ∀ z ∈ digitZeros, z + 10 ≤ 65 ∨ 0x80 ≤ z := by decide

theorem foldExpansions_digits :
    ∀ e ∈ foldExpansions, ∀ z ∈ digitZeros, e.1 < z ∨ z + 10 ≤ e.1 := by decide +kernel

theorem foldRuns_digits :
    ∀ r ∈ foldRuns, ∀ z ∈ digitZeros, r.last < z ∨ z + 10 ≤ r.first := by decide +kernel

theorem foldChar_of_isDigit {c : Char} (h : isDigit c) : foldChar c = [c] := by
  obtain ⟨z, hz, hlow, hhigh⟩ := isDigit_iff.1 h
  by_cases hascii : c.toNat < 0x80
  · have hletter := digitZeros_letters z hz
    rw [foldChar, if_pos hascii, toLower_of_not_capital]
    omega
  · have hexpansion : foldExpansions.find? (·.1 == c.toNat) = none := by
      apply List.find?_eq_none.2
      intro e he heq
      have hapart := foldExpansions_digits e he z hz
      rw [beq_iff_eq] at heq
      omega
    have hrun : foldRuns.find? (·.covers c.toNat) = none := by
      apply List.find?_eq_none.2
      intro r hr hcovers
      have hapart := foldRuns_digits r hr z hz
      simp only [CaseRun.covers, Bool.and_eq_true, decide_eq_true_eq] at hcovers
      omega
    rw [foldChar, if_neg hascii, hexpansion, hrun]

/-! ### Texts -/

namespace Text

variable {t name : Text}

theorem length_le_length_fold (t : Text) : t.length ≤ t.fold.length := by
  induction t with
  | nil => simp
  | cons c t ih =>
    have hc := one_le_length_foldChar c
    rw [fold_cons, List.length_append, List.length_cons]
    omega

theorem length_lt_length_fold {c : Char} (hc : c ∈ t) (hlong : 2 ≤ (foldChar c).length) :
    t.length < t.fold.length := by
  obtain ⟨before, after, rfl⟩ := List.append_of_mem hc
  have hbefore := length_le_length_fold before
  have hafter := length_le_length_fold after
  simp only [fold_append, fold_cons, List.length_append, List.length_cons]
  omega

theorem length_fold_of_forall (h : ∀ c ∈ t, (foldChar c).length = 1) :
    t.fold.length = t.length := by
  induction t with
  | nil => rfl
  | cons c t ih =>
    obtain ⟨hc, ht⟩ := List.forall_mem_cons.1 h
    rw [fold_cons, List.length_append, hc, ih ht, List.length_cons, Nat.add_comm]

/-- **A text that is like a text within ASCII is as long, unless there is a ligature in it.** -/
theorem length_eq_iff_of_fold_eq (hname : ∀ c ∈ name, c.toNat < 0x80) (h : t.fold = name.fold) :
    t.length = name.length ↔ ∀ c ∈ t, c ∉ ligatures := by
  have hlength : t.fold.length = name.length := by
    rw [h]
    exact length_fold_of_forall fun c hc => length_foldChar_of_ascii (hname c hc)
  constructor
  · intro heq c hc hligature
    have hlong := length_lt_length_fold hc (length_foldChar_of_mem_ligatures c hligature)
    omega
  · intro hfree
    rw [← hlength]
    refine (length_fold_of_forall ?_).symm
    intro c hc
    refine length_foldChar_of_not_mem_ligatures (hfree c hc) ?_
    intro x hx
    -- what the character folds to is in the folded name, which is within ASCII
    have hmem : x ∈ name.fold := by
      rw [← h]
      exact List.mem_flatMap.2 ⟨c, hc, hx⟩
    obtain ⟨d, hd, hxd⟩ := List.mem_flatMap.1 hmem
    exact toNat_of_mem_foldChar_of_ascii (hname d hd) hxd

/-- No ligature can be in a text whose folding has nothing of what a ligature folds to. -/
theorem length_eq_of_fold_eq (hname : ∀ c ∈ name, c.toNat < 0x80)
    (hligature : ∀ c ∈ ligatures, ¬ foldChar c <:+: name.fold) (h : t.fold = name.fold) :
    t.length = name.length := by
  apply (length_eq_iff_of_fold_eq hname h).2
  intro c hc hmem
  obtain ⟨before, after, rfl⟩ := List.append_of_mem hc
  apply hligature c hmem
  rw [← h, fold_append, fold_cons]
  exact ⟨fold before, fold after, by simp⟩

theorem isDigit_of_fold_eq (hname : ∀ c ∈ name.fold, isDigit c = false) (h : t.fold = name.fold) :
    ∀ c ∈ t, isDigit c = false := by
  intro c hc
  by_contra hdigit
  rw [Bool.not_eq_false] at hdigit
  have hmem : c ∈ t.fold := List.mem_flatMap.2 ⟨c, hc, by simp [foldChar_of_isDigit hdigit]⟩
  rw [h] at hmem
  rw [hname c hmem] at hdigit
  cases hdigit

end Text

end CommandLang
