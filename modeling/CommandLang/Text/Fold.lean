/-
  CommandLang/Text/Fold.lean
  ==========================
  **Comparing texts without regard to letter case.**

  Two texts are alike when their full Unicode case foldings are equal.  Folding may lengthen a text
  (`ß` folds to `ss`), so a fold is never cut: a text is cut first and the piece is folded.

  The statements here say that folding goes piece by piece (`fold_append`), and that characters
  below the letters, such as the space, `:`, `=` and the digits, are neither changed nor produced by
  it (`mem_foldChar_iff_of_lt`, `mem_fold_iff_of_lt`).
-/
import CommandLang.Text.Basic
import CommandLang.Text.FoldRuns

namespace CommandLang

/-- The case folding of one character: its small form within ASCII, else what the tables list. -/
def foldChar (c : Char) : Text :=
  if c.toNat < 0x80 then [c.toLower]
  else match foldExpansions.find? (·.1 == c.toNat) with
    | some (_, codes) => codes.map Char.ofNat
    | none =>
      match foldRuns.find? (·.covers c.toNat) with
      | some run => [Char.ofNat (run.image c.toNat)]
      | none => [c]

namespace Text

/-- The case folding of a text. -/
def fold (t : Text) : Text := t.flatMap foldChar

@[simp] theorem fold_nil : fold [] = [] := rfl

@[simp] theorem fold_cons (c : Char) (t : Text) : fold (c :: t) = foldChar c ++ fold t := rfl

theorem fold_append (t u : Text) : fold (t ++ u) = fold t ++ fold u := by
  simp [fold]

end Text

/-! ### Characters that folding leaves alone -/

/-- Within ASCII only the capital letters change. -/
theorem toLower_of_not_capital {c : Char} (h : ¬ (65 ≤ c.toNat ∧ c.toNat ≤ 90)) :
    c.toLower = c := by
  unfold Char.toLower
  split
  · rename_i hu
    exact absurd ⟨UInt32.le_iff_toNat_le.1 hu.1, UInt32.le_iff_toNat_le.1 hu.2⟩ h
  · rfl

/-- A capital letter has its small form 32 places further on. -/
theorem toNat_toLower_of_capital {c : Char} (h : 65 ≤ c.toNat ∧ c.toNat ≤ 90) :
    c.toLower.toNat = c.toNat + 32 := by
  have hu : 'A'.val ≤ c.val ∧ c.val ≤ 'Z'.val :=
    ⟨UInt32.le_iff_toNat_le.2 h.1, UInt32.le_iff_toNat_le.2 h.2⟩
  unfold Char.toLower
  rw [dif_pos hu]
  change (c.val + ('a'.val - 'A'.val)).toNat = c.val.toNat + 32
  rw [UInt32.toNat_add]
  have hle : c.val.toNat ≤ 90 := h.2
  have hgap : ('a'.val - 'A'.val : UInt32).toNat = 32 := by decide
  omega

theorem toNat_ofNat_of_scalar {n : Nat} (h : n < 0xD800 ∨ 0xDFFF < n ∧ n < 0x110000) :
    (Char.ofNat n).toNat = n := by
  have hv : n.isValidChar := h
  unfold Char.ofNat
  rw [dif_pos hv]
  rfl

/-- What a run or a listed letter folds to lies among the letters. -/
theorem le_toNat_of_mem_foldChar {c x : Char} (hc : 0x80 ≤ c.toNat) (hx : x ∈ foldChar c) :
    97 ≤ x.toNat := by
  have hn : ¬ c.toNat < 0x80 := by omega
  rw [foldChar, if_neg hn] at hx
  split at hx
  · rename_i code codes hl
    obtain ⟨n, hmem, rfl⟩ := List.mem_map.1 hx
    have hb := foldExpansions_letters _ (List.mem_of_find?_eq_some hl) n hmem
    rw [toNat_ofNat_of_scalar (by omega)]
    omega
  · split at hx
    · rename_i run hf
      have hcov := List.find?_some hf
      have hb := foldRuns_letters _ (List.mem_of_find?_eq_some hf)
      simp only [CaseRun.covers, Bool.and_eq_true, decide_eq_true_eq] at hcov
      simp only [List.mem_singleton] at hx
      subst hx
      have himg : (run.image c.toNat : Int) = c.toNat + run.shift := by
        simp only [CaseRun.image]; omega
      rw [toNat_ofNat_of_scalar (by omega)]
      omega
    · simp only [List.mem_singleton] at hx
      subst hx; omega

/-- A character below the letters is its own fold, and no other character's. -/
theorem mem_foldChar_iff_of_lt {x : Char} (h : x.toNat < 65) (c : Char) :
    x ∈ foldChar c ↔ x = c := by
  by_cases hc : c.toNat < 0x80
  · rw [foldChar, if_pos hc, List.mem_singleton]
    by_cases hu : 65 ≤ c.toNat ∧ c.toNat ≤ 90
    · have hl := toNat_toLower_of_capital hu
      constructor
      · rintro rfl; omega
      · rintro rfl; omega
    · rw [toLower_of_not_capital hu]
  · constructor
    · intro hx
      have := le_toNat_of_mem_foldChar (by omega) hx
      omega
    · rintro rfl; omega

/-- Folding a text neither removes nor adds a character below the letters. -/
theorem Text.mem_fold_iff_of_lt {x : Char} (h : x.toNat < 65) (t : Text) :
    x ∈ t.fold ↔ x ∈ t := by
  simp only [Text.fold, List.mem_flatMap, mem_foldChar_iff_of_lt h]
  constructor
  · rintro ⟨c, hc, rfl⟩; exact hc
  · exact fun hx => ⟨x, hx, rfl⟩

end CommandLang
