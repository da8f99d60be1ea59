/-
  CommandLang/Proofs/Text/Lower.lean
  ==================================
  **Where small letters are those of ASCII.**

  A text in small letters (`Text.lower`) and a text whose ASCII capitals are made small
  (`Text.small`) differ in general: other alphabets have capitals, and two letters beyond ASCII have
  `i` and `k` for a small form.  But no other character of ASCII comes from beyond it, and digits and
  blanks are changed by neither.  So on texts that are made of such characters (`IsSettled`) the two
  say the same (`lower_eq_iff`).
-/
import CommandLang.Proofs.Numeral
import CommandLang.Proofs.Text.Case
import CommandLang.Text.Lower

namespace CommandLang

/-! ### Letters, digits and blanks -/

/-- The ranges of the digits, and of the blanks beyond ASCII. -/
def caselessRanges : CodeRanges :=
  (digitZeros.map fun z => (z, z + 9)) ++
    [(0x85, 0x85), (0xA0, 0xA0), (0x1680, 0x1680), (0x2000, 0x200A), (0x2028, 0x2029),
     (0x202F, 0x202F), (0x205F, 0x205F), (0x3000, 0x3000)]

/-- Letters that have a small form, and these, lie apart from the digits and blanks. -/
theorem lowerRuns_caseless :
    (lowerRuns.all fun r => caselessRanges.all fun p =>
      (decide (r.last < p.1) || decide (p.2 < r.first)) &&
        (decide (r.image r.last < p.1) || decide (p.2 < r.image r.first))) = true := by
  decide +kernel

/-- The letters of the runs are beyond ASCII, and so are their small forms, but for `k`. -/
theorem lowerRuns_letters :
    ∀ r ∈ lowerRuns, 0x80 ≤ r.first ∧ (r.first + r.shift = 107 ∧ r.last = r.first ∨
      0x80 ≤ r.first + r.shift) ∧
      (r.last + r.shift < 0xD800 ∨ 0xDFFF < r.first + r.shift ∧ r.last + r.shift < 0x110000) := by
  decide +kernel

theorem exists_caselessRange {c : Char} (h : isDigit c ∨ isBlank c ∧ 0x80 ≤ c.toNat) :
    ∃ p ∈ caselessRanges, p.1 ≤ c.toNat ∧ c.toNat ≤ p.2 := by
  rcases h with hdigit | ⟨hblank, hascii⟩
  · obtain ⟨z, hz, hlow, hhigh⟩ := isDigit_iff.1 hdigit
    exact ⟨(z, z + 9), List.mem_append_left _ (List.mem_map_of_mem hz), hlow, by
      simp only
      omega⟩
  · simp only [isBlank, isBlankCode, Bool.or_eq_true, Bool.and_eq_true, decide_eq_true_eq,
      beq_iff_eq] at hblank
    simp only [caselessRanges, List.mem_append, List.mem_cons, List.not_mem_nil, or_false,
      or_and_right, exists_or, exists_eq_left]
    omega

/-- The character is a digit, a blank, or a character of ASCII other than `i` and `k`. -/
def IsSettled (x : Char) : Prop :=
  isDigit x ∨ isBlank x ∨ x.toNat < 0x80 ∧ x ≠ 'i' ∧ x ≠ 'k'

instance (x : Char) : Decidable (IsSettled x) := inferInstanceAs (Decidable (_ ∨ _))

theorem IsSettled.exists_caselessRange {c : Char} (h : IsSettled c) (hascii : 0x80 ≤ c.toNat) :
    ∃ p ∈ caselessRanges, p.1 ≤ c.toNat ∧ c.toNat ≤ p.2 := by
  apply CommandLang.exists_caselessRange
  rcases h with hdigit | hblank | ⟨hlow, -⟩
  · exact .inl hdigit
  · exact .inr ⟨hblank, hascii⟩
  · omega

/-- Neither a letter that has a small form nor that form is settled. -/
theorem not_isSettled_of_covers {r : CaseRun} (hr : r ∈ lowerRuns) {c : Char}
    (hc : r.covers c.toNat) : ¬ IsSettled c ∧ ¬ IsSettled (Char.ofNat (r.image c.toNat)) := by
  simp only [CaseRun.covers, Bool.and_eq_true, decide_eq_true_eq] at hc
  obtain ⟨hfirst, hsmall, hscalar⟩ := lowerRuns_letters r hr
  have himage : (r.image c.toNat : Int) = c.toNat + r.shift := by
    simp only [CaseRun.image]
    omega
  have hcode : (Char.ofNat (r.image c.toNat)).toNat = r.image c.toNat :=
    toNat_ofNat_of_scalar (by omega)
  have hapart : ∀ p ∈ caselessRanges, (r.last < p.1 ∨ p.2 < r.first) ∧
      (r.image r.last < p.1 ∨ p.2 < r.image r.first) := by
    intro p hp
    have h := List.all_eq_true.1 (List.all_eq_true.1 lowerRuns_caseless r hr) p hp
    simpa using h
  constructor
  · intro hsettled
    obtain ⟨p, hp, hrange⟩ := hsettled.exists_caselessRange (by omega)
    have h := (hapart p hp).1
    omega
  · intro hsettled
    by_cases hascii : 0x80 ≤ r.image c.toNat
    · obtain ⟨p, hp, hrange⟩ := hsettled.exists_caselessRange (by omega)
      rw [hcode] at hrange
      have h := (hapart p hp).2
      simp only [CaseRun.image] at h hrange
      omega
    · have hk : r.image c.toNat = 107 := by omega
      rw [hk] at hsettled
      revert hsettled
      decide

/-! ### Small forms -/

theorem lowerChar_cases {c : Char} (hc : 0x80 ≤ c.toNat) :
    c = '\u0130' ∧ lowerChar c = ['i', '\u0307'] ∨
      (∃ r ∈ lowerRuns, r.covers c.toNat ∧ lowerChar c = [Char.ofNat (r.image c.toNat)]) ∨
        lowerChar c = [c] := by
  rw [lowerChar, if_neg (Nat.not_lt.2 hc)]
  by_cases hdotted : c = '\u0130'
  · exact .inl ⟨hdotted, if_pos hdotted⟩
  · rw [if_neg hdotted]
    right
    cases hfind : lowerRuns.find? (·.covers c.toNat) with
    | some r =>
      have hcovers : r.covers c.toNat = true := by
        have h := List.find?_some hfind
        exact h
      exact .inl ⟨r, List.mem_of_find?_eq_some hfind, hcovers, rfl⟩
    | none => exact .inr rfl

/-- Where one of the two small forms of a character is settled, they are the same. -/
theorem lowerChar_of_isSettled {c : Char}
    (h : (∀ x ∈ lowerChar c, IsSettled x) ∨ IsSettled c.toLower) : lowerChar c = [c.toLower] := by
  by_cases hascii : c.toNat < 0x80
  · rw [lowerChar, if_pos hascii]
  · have hsame : c.toLower = c := toLower_of_not_capital (by omega)
    rw [hsame] at h ⊢
    rcases lowerChar_cases (Nat.not_lt.1 hascii) with ⟨rfl, hlower⟩ | ⟨r, hr, hc, hlower⟩ | hlower
    · rw [hlower] at h
      exact absurd h (by decide)
    · rw [hlower] at h
      obtain ⟨hletter, hsmall⟩ := not_isSettled_of_covers hr hc
      rcases h with h | h
      · exact absurd (h _ (List.mem_singleton.2 rfl)) hsmall
      · exact absurd h hletter
    · exact hlower

namespace Text

theorem lowerAfter_of_isSettled {t before : Text}
    (h : (∀ x ∈ lowerAfter before t, IsSettled x) ∨ ∀ x ∈ t.small, IsSettled x) :
    lowerAfter before t = t.small := by
  induction t generalizing before with
  | nil => rfl
  | cons c t ih =>
    have hsigma : c ≠ '\u03A3' := by
      rintro rfl
      have hform : ¬ IsSettled (lowerSigma before t) := by
        unfold lowerSigma
        split <;> decide
      rcases h with h | h
      · exact hform (h _ (by simp [lowerAfter]))
      · exact absurd (h _ List.mem_cons_self) (by decide)
    rw [lowerAfter, if_neg hsigma] at h ⊢
    simp only [small_cons, List.mem_append, List.mem_cons] at h
    have hc : lowerChar c = [c.toLower] := by
      apply lowerChar_of_isSettled
      rcases h with h | h
      · exact .inl fun x hx => h x (.inl hx)
      · exact .inr (h _ (.inl rfl))
    have ht : lowerAfter (c :: before) t = small t := by
      apply ih
      rcases h with h | h
      · exact .inl fun x hx => h x (.inr hx)
      · exact .inr fun x hx => h x (.inr hx)
    rw [hc, ht]
    rfl

/-- **A text is a settled one in small letters if it is so with its ASCII capitals made small.** -/
theorem lower_eq_iff {t u : Text} (hu : ∀ x ∈ u, IsSettled x) : t.lower = u ↔ t.small = u := by
  constructor
  · rintro rfl
    exact (lowerAfter_of_isSettled (.inl hu)).symm
  · rintro rfl
    exact lowerAfter_of_isSettled (.inr hu)

end Text

end CommandLang
