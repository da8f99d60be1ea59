/-
  CommandLang/Proofs/Numeral.lean
  ===============================
  **What is read as a number.**

  Digits and blanks have nothing in common, so the parts of a number can be told from one another:
  blanks, a sign, a run of digits and whatever comes after the run.

    * `leading` reads the run that a text begins with (`leading_of_leadsWith`), and 0 where there is
      none (`leading_eq_zero`);
    * `whole` reads a run between paddings (`whole_eq_ok_iff`).

  A written number is read back, whatever blanks stand before it and whatever comes after it that is
  no digit (`leading_append_write`).  What was read can also be written and read again, because it is
  written with no more digits than it had (`length_writeNat_of_leading`).
-/
import CommandLang.Numeral
import Mathlib.Data.List.TakeWhile

namespace CommandLang

/-! ### Digits and blanks -/

theorem isDigit_iff {c : Char} :
    isDigit c = true ↔ ∃ z ∈ digitZeros, z ≤ c.toNat ∧ c.toNat < z + 10 := by
  rw [isDigit, digitValue?, List.findSome?_isSome_iff]
  constructor
  · rintro ⟨z, hz, hsome⟩
    refine ⟨z, hz, ?_⟩
    by_contra hnot
    rw [if_neg hnot] at hsome
    cases hsome
  · rintro ⟨z, hz, hrange⟩
    exact ⟨z, hz, by rw [if_pos hrange]; rfl⟩

theorem getD_digitValue?_lt (c : Char) : (digitValue? c).getD 0 < 10 := by
  cases hvalue : digitValue? c with
  | none => exact Nat.zero_lt_succ 9
  | some d => exact digitValue?_lt hvalue

theorem isBlankCode_digit : ∀ z ∈ digitZeros, ∀ k < 10, isBlankCode (z + k) = false := by
  decide +kernel

theorem isBlank_of_isDigit {c : Char} (h : isDigit c) : isBlank c = false := by
  obtain ⟨z, hz, hlow, hhigh⟩ := isDigit_iff.1 h
  have hcode := isBlankCode_digit z hz (c.toNat - z) (by omega)
  rw [Nat.add_sub_cancel' hlow] at hcode
  exact hcode

theorem isDigit_of_isBlank {c : Char} (h : isBlank c) : isDigit c = false := by
  by_contra hdigit
  rw [isBlank_of_isDigit (by simpa using hdigit)] at h
  cases h

theorem isPadding_of_isDigit {c : Char} (h : isDigit c) : Numeral.isPadding c = false := by
  rw [Numeral.isPadding, isBlank_of_isDigit h, Bool.false_and]

theorem isDigit_of_isPadding {c : Char} (h : Numeral.isPadding c) : isDigit c = false := by
  rw [Numeral.isPadding, Bool.and_eq_true] at h
  exact isDigit_of_isBlank h.1

namespace Numeral

/-! ### Runs of digits -/

def IsRun (run : Text) : Prop := run ≠ [] ∧ ∀ c ∈ run, isDigit c

instance (run : Text) : Decidable (IsRun run) := inferInstanceAs (Decidable (_ ∧ _))

theorem IsRun.exists_cons {run : Text} (h : IsRun run) :
    ∃ c cs, run = c :: cs ∧ isDigit c = true := by
  obtain ⟨c, cs, rfl⟩ := List.exists_cons_of_ne_nil h.1
  exact ⟨c, cs, rfl, h.2 c (by simp)⟩

/-- A run of digits ends where something else follows. -/
theorem takeWhile_isDigit_append {run t : Text} (hrun : ∀ c ∈ run, isDigit c)
    (ht : ∀ c ∈ t.head?, isDigit c = false) : (run ++ t).takeWhile isDigit = run := by
  rw [List.takeWhile_append_of_pos hrun]
  cases t with
  | nil => simp
  | cons c t => simp [ht c rfl]

theorem dropWhile_isDigit_append {run t : Text} (hrun : ∀ c ∈ run, isDigit c)
    (ht : ∀ c ∈ t.head?, isDigit c = false) : (run ++ t).dropWhile isDigit = t := by
  rw [List.dropWhile_append_of_pos hrun]
  cases t with
  | nil => simp
  | cons c t => simp [ht c rfl]

/-- What comes after a maximal run of digits does not begin with one. -/
theorem head?_dropWhile_isDigit (t : Text) :
    ∀ c ∈ (t.dropWhile isDigit).head?, isDigit c = false := by
  intro c hc
  have hnot := List.head?_dropWhile_not isDigit t
  rw [Option.mem_def.1 hc] at hnot
  simpa using hnot

theorem isRun_takeWhile {t : Text} (h : t.takeWhile isDigit ≠ []) : IsRun (t.takeWhile isDigit) :=
  ⟨h, fun _ hc => List.mem_takeWhile_imp hc⟩

theorem readDigits_of_le {run : Text} (h : run.length ≤ maxDigits) :
    readDigits run = .ok (ofDigits run) := by
  rw [readDigits, if_neg (Nat.not_lt.2 h)]

theorem readDigits_of_lt {run : Text} (h : maxDigits < run.length) :
    readDigits run = .error (.tooLong run.length) := by
  rw [readDigits, if_pos h]

/-! ### The number that a text begins with -/

/-- The text begins with blanks, the sign and the run of digits, and no digit follows. -/
def LeadsWith (t sign run : Text) : Prop :=
  ∃ blanks rest, t = blanks ++ (sign ++ (run ++ rest)) ∧ (∀ c ∈ blanks, isBlank c) ∧
    (sign = [] ∨ sign = ['-'] ∨ sign = ['+']) ∧ IsRun run ∧ ∀ c ∈ rest.head?, isDigit c = false

/-- A sign is told from the digits after it. -/
theorem splitSign_append {sign run : Text} (hsign : sign = [] ∨ sign = ['-'] ∨ sign = ['+'])
    (hrun : IsRun run) (rest : Text) :
    splitSign (sign ++ (run ++ rest)) = (decide (sign = ['-']), run ++ rest) := by
  rcases hsign with rfl | rfl | rfl
  · obtain ⟨c, cs, rfl, hc⟩ := hrun.exists_cons
    have hminus : c ≠ '-' := by
      rintro rfl
      revert hc
      decide
    have hplus : c ≠ '+' := by
      rintro rfl
      revert hc
      decide
    rw [List.nil_append, List.cons_append]
    unfold splitSign
    split
    · rename_i heq
      exact absurd (List.cons.inj heq).1 hminus
    · rename_i heq
      exact absurd (List.cons.inj heq).1 hplus
    · rfl
  · rfl
  · rfl

/-- Neither a sign nor a digit is blank, so only the blanks before them are left out. -/
theorem trimLeft_append_sign {blanks sign run : Text} (hblanks : ∀ c ∈ blanks, isBlank c)
    (hsign : sign = [] ∨ sign = ['-'] ∨ sign = ['+']) (hrun : IsRun run) (rest : Text) :
    (blanks ++ (sign ++ (run ++ rest))).trimLeft = sign ++ (run ++ rest) := by
  rw [Text.trimLeft, List.dropWhile_append_of_pos hblanks]
  rcases hsign with rfl | rfl | rfl
  · obtain ⟨c, cs, rfl, hc⟩ := hrun.exists_cons
    simp [isBlank_of_isDigit hc]
  · rfl
  · rfl

/-- The number that a text begins with is read from its run of digits. -/
theorem leading_of_leadsWith {t sign run : Text} (h : LeadsWith t sign run) :
    leading t =
      (readDigits run).map fun n => if sign = ['-'] then -(n : Int) else n := by
  obtain ⟨blanks, rest, rfl, hblanks, hsign, hrun, hrest⟩ := h
  have hempty : run.isEmpty = false := by simp [hrun.1]
  simp only [leading, trimLeft_append_sign hblanks hsign hrun, splitSign_append hsign hrun,
    takeWhile_isDigit_append hrun.2 hrest, hempty, decide_eq_true_eq]
  rfl

/-- A text without blanks before it is a sign, if it has one, and what is left without the sign. -/
theorem exists_sign_append (t : Text) :
    ∃ sign, (sign = [] ∨ sign = ['-'] ∨ sign = ['+']) ∧ t = sign ++ (splitSign t).2 := by
  unfold splitSign
  split
  · exact ⟨['-'], .inr (.inl rfl), rfl⟩
  · exact ⟨['+'], .inr (.inr rfl), rfl⟩
  · exact ⟨[], .inl rfl, rfl⟩

theorem leading_eq_zero {t : Text} (h : ∀ sign run, ¬ LeadsWith t sign run) :
    leading t = .ok 0 := by
  obtain ⟨sign, hsign, hsplit⟩ := exists_sign_append t.trimLeft
  have hempty : ((splitSign t.trimLeft).2.takeWhile isDigit).isEmpty = true := by
    by_contra hne
    have hrun := isRun_takeWhile (t := (splitSign t.trimLeft).2) (by simpa using hne)
    refine h sign _ ⟨t.takeWhile isBlank, (splitSign t.trimLeft).2.dropWhile isDigit, ?_,
      fun c hc => List.mem_takeWhile_imp hc, hsign, hrun, head?_dropWhile_isDigit _⟩
    rw [List.takeWhile_append_dropWhile, ← hsplit]
    exact List.takeWhile_append_dropWhile.symm
  simp only [leading, hempty, if_true]

theorem leading_eq_zero_of_forall {t : Text} (h : ∀ c ∈ t, isDigit c = false) :
    leading t = .ok 0 := by
  apply leading_eq_zero
  rintro sign run ⟨blanks, rest, rfl, -, -, hrun, -⟩
  obtain ⟨c, cs, rfl, hc⟩ := hrun.exists_cons
  rw [h c (by simp)] at hc
  cases hc

/-- The text begins with a number of more digits than are read. -/
def Overlong (t : Text) : Prop := ∃ sign run, LeadsWith t sign run ∧ maxDigits < run.length

/-- The number that a text begins with is refused only for its length. -/
theorem leading_error_iff {t : Text} : (∃ e, leading t = .error e) ↔ Overlong t := by
  constructor
  · rintro ⟨e, he⟩
    by_cases h : ∃ sign run, LeadsWith t sign run
    · obtain ⟨sign, run, hlead⟩ := h
      refine ⟨sign, run, hlead, ?_⟩
      by_contra hle
      rw [leading_of_leadsWith hlead, readDigits_of_le (Nat.not_lt.1 hle)] at he
      cases he
    · simp only [not_exists] at h
      rw [leading_eq_zero h] at he
      cases he
  · rintro ⟨sign, run, hlead, hlong⟩
    refine ⟨.tooLong run.length, ?_⟩
    rw [leading_of_leadsWith hlead, readDigits_of_lt hlong]
    rfl

/-! ### A text that is a number -/

/-- The text is one run of digits that is not too long, with padding on either side. -/
def WholeOf (t run : Text) : Prop :=
  ∃ before after, t = before ++ (run ++ after) ∧ (∀ c ∈ before, isPadding c) ∧
    (∀ c ∈ after, isPadding c) ∧ IsRun run ∧ run.length ≤ maxDigits

theorem dropWhile_isPadding_append {before run : Text} (hbefore : ∀ c ∈ before, isPadding c)
    (hrun : IsRun run) (after : Text) :
    (before ++ (run ++ after)).dropWhile isPadding = run ++ after := by
  obtain ⟨c, cs, rfl, hc⟩ := hrun.exists_cons
  rw [List.dropWhile_append_of_pos hbefore]
  simp [isPadding_of_isDigit hc]

/-- A text is read as a number if it is a run of digits between paddings. -/
theorem whole_eq_ok_iff {t : Text} {n : Nat} :
    whole t = .ok n ↔ ∃ run, WholeOf t run ∧ ofDigits run = n := by
  constructor
  · intro h
    rw [whole] at h
    by_cases hlong : maxDigits < ((t.dropWhile isPadding).takeWhile isDigit).length
    · simp only [readDigits_of_lt hlong] at h
      cases h
    · simp only [readDigits_of_le (Nat.not_lt.1 hlong)] at h
      change (if _ then Except.error _ else Except.ok _) = _ at h
      split at h
      · cases h
      · rename_i hgood
        simp only [Bool.or_eq_true, Bool.not_eq_true', not_or, Bool.not_eq_true, Bool.not_eq_false,
          List.isEmpty_eq_false_iff, List.all_eq_true] at hgood
        refine ⟨_, ⟨t.takeWhile isPadding, _, ?_, fun c hc => List.mem_takeWhile_imp hc, hgood.2,
          isRun_takeWhile hgood.1, Nat.not_lt.1 hlong⟩, Except.ok.inj h⟩
        rw [List.takeWhile_append_dropWhile, List.takeWhile_append_dropWhile]
  · rintro ⟨run, ⟨before, after, rfl, hbefore, hafter, hrun, hlen⟩, rfl⟩
    have hhead : ∀ c ∈ after.head?, isDigit c = false := fun c hc =>
      isDigit_of_isPadding (hafter c (List.mem_of_mem_head? hc))
    have hempty : run.isEmpty = false := by simp [hrun.1]
    have hall : after.all isPadding = true := List.all_eq_true.2 hafter
    simp only [whole, dropWhile_isPadding_append hbefore hrun,
      takeWhile_isDigit_append hrun.2 hhead, dropWhile_isDigit_append hrun.2 hhead,
      readDigits_of_le hlen, hempty, hall]
    rfl

/-- A text is refused as a number if no run of digits in it is the number. -/
theorem whole_error_iff {t : Text} : (∃ e, whole t = .error e) ↔ ∀ run, ¬ WholeOf t run := by
  constructor
  · rintro ⟨e, he⟩ run hrun
    rw [whole_eq_ok_iff.2 ⟨run, hrun, rfl⟩] at he
    cases he
  · intro hnone
    cases hw : whole t with
    | error e => exact ⟨e, rfl⟩
    | ok n =>
      obtain ⟨run, hrun, -⟩ := whole_eq_ok_iff.1 hw
      exact absurd hrun (hnone run)

/-! ### Reading what was written -/

theorem isDigit_of_mem_writeNat {n : Nat} {c : Char} (h : c ∈ writeNat n) : c.isDigit :=
  Nat.isDigit_of_mem_toDigits (by decide) (by decide) h

theorem isRun_writeNat (n : Nat) : IsRun (writeNat n) :=
  ⟨Nat.toDigits_ne_nil, fun _ hc => isDigit_of_core (isDigit_of_mem_writeNat hc)⟩

/-- On core digits the value of a run is the one that core gives it. -/
theorem foldl_digitValue_eq {run : Text} (h : ∀ c ∈ run, c.isDigit) (m : Nat) :
    run.foldl (fun n c => 10 * n + (digitValue? c).getD 0) m = Nat.ofDigitChars 10 run m := by
  induction run generalizing m with
  | nil => rfl
  | cons c run ih =>
    have hc := digitValue?_of_core (h c (by simp))
    rw [List.foldl_cons, Nat.ofDigitChars_cons, hc, ih fun x hx => h x (by simp [hx])]
    rfl

theorem ofDigits_writeNat (n : Nat) : ofDigits (writeNat n) = n := by
  calc
    ofDigits (writeNat n) = Nat.ofDigitChars 10 (writeNat n) 0 :=
      foldl_digitValue_eq (fun _ => isDigit_of_mem_writeNat) 0
    _ = n := Nat.ofDigitChars_ten_toDigits

/-- A written number is a minus sign, if it is negative, and a run of digits. -/
theorem write_eq (n : Int) : write n = (if n < 0 then ['-'] else []) ++ writeNat n.natAbs := by
  cases n with
  | ofNat m => rfl
  | negSucc m => rw [if_pos (Int.negSucc_lt_zero m)]; rfl

theorem mem_write {n : Int} {c : Char} (h : c ∈ write n) : c = '-' ∨ c.isDigit := by
  rw [write_eq, List.mem_append] at h
  rcases h with h | h
  · split at h
    · exact .inl (List.mem_singleton.1 h)
    · cases h
  · exact .inr (isDigit_of_mem_writeNat h)

theorem not_mem_write {x : Char} (hminus : x ≠ '-') (hdigit : x.isDigit = false) (n : Int) :
    x ∉ write n := by
  intro h
  rcases mem_write h with h | h
  · exact hminus h
  · rw [hdigit] at h
    cases h

theorem isBlank_of_mem_write {n : Int} {c : Char} (h : c ∈ write n) : isBlank c = false := by
  rcases mem_write h with rfl | hdigit
  · decide
  · exact isBlank_of_isDigit (isDigit_of_core hdigit)

/-- **A written number is read back**, after any blanks and before anything but a digit. -/
theorem leading_append_write {n : Int} (hlen : (writeNat n.natAbs).length ≤ maxDigits)
    {w t : Text} (hw : ∀ c ∈ w, isBlank c) (ht : ∀ c ∈ t.head?, isDigit c = false) :
    leading (w ++ write n ++ t) = .ok n := by
  have hlead : LeadsWith (w ++ write n ++ t) (if n < 0 then ['-'] else []) (writeNat n.natAbs) := by
    refine ⟨w, t, by simp [write_eq], hw, ?_, isRun_writeNat _, ht⟩
    split
    · exact .inr (.inl rfl)
    · exact .inl rfl
  rw [leading_of_leadsWith hlead, readDigits_of_le hlen, ofDigits_writeNat]
  change Except.ok _ = Except.ok n
  congr 1
  by_cases hneg : n < 0
  · simp only [hneg, if_true]
    omega
  · simp only [hneg, if_false, List.nil_eq, reduceCtorEq]
    omega

theorem leading_write {n : Int} (hlen : (writeNat n.natAbs).length ≤ maxDigits) :
    leading (write n) = .ok n := by
  simpa using leading_append_write hlen (w := []) (t := []) (by simp) (by simp)

/-! ### How long a number is written -/

theorem length_writeNat_of_lt {d : Nat} (hd : d < 10) : (writeNat d).length = 1 := by
  rw [writeNat, Nat.toDigits_of_lt_base hd]
  rfl

/-- A further digit makes a written number longer by one at most. -/
theorem length_writeNat_mul_add_le (n : Nat) {d : Nat} (hd : d < 10) :
    (writeNat (10 * n + d)).length ≤ (writeNat n).length + 1 := by
  have hone := length_writeNat_of_lt hd
  by_cases hzero : n = 0
  · subst hzero
    rw [Nat.mul_zero, Nat.zero_add, hone]
    exact Nat.le_add_left 1 _
  · have hsplit : writeNat n ++ writeNat d = writeNat (10 * n + d) :=
      Nat.toDigits_append_toDigits (by decide) (Nat.pos_of_ne_zero hzero) hd
    rw [← hsplit, List.length_append, hone]

theorem length_writeNat_foldl_le (run : Text) (n : Nat) :
    (writeNat (run.foldl (fun n c => 10 * n + (digitValue? c).getD 0) n)).length ≤
      (writeNat n).length + run.length := by
  induction run generalizing n with
  | nil => exact Nat.le_refl _
  | cons c run ih =>
    have hfirst := length_writeNat_mul_add_le n (getD_digitValue?_lt c)
    have hrest := ih (10 * n + (digitValue? c).getD 0)
    rw [List.foldl_cons, List.length_cons]
    omega

/-- A number is not written longer than the digits that it was read from. -/
theorem length_writeNat_ofDigits_le {run : Text} (h : run ≠ []) :
    (writeNat (ofDigits run)).length ≤ run.length := by
  obtain ⟨c, rest, rfl⟩ := List.exists_cons_of_ne_nil h
  -- the value starts from the first digit, which has one place, and not from 0, which has one too
  have hone := length_writeNat_of_lt (getD_digitValue?_lt c)
  have hrest := length_writeNat_foldl_le rest ((digitValue? c).getD 0)
  rw [ofDigits, List.foldl_cons, Nat.mul_zero, Nat.zero_add, List.length_cons]
  omega

/-- What was read as a leading number is not too long to be read again. -/
theorem length_writeNat_of_leading {t : Text} {n : Int} (h : leading t = .ok n) :
    (writeNat n.natAbs).length ≤ maxDigits := by
  by_cases hlead : ∃ sign run, LeadsWith t sign run
  · obtain ⟨sign, run, hlead⟩ := hlead
    have hrun : run ≠ [] := by
      obtain ⟨_, _, -, -, -, hrun, -⟩ := hlead
      exact hrun.1
    rw [leading_of_leadsWith hlead] at h
    by_cases hlong : maxDigits < run.length
    · rw [readDigits_of_lt hlong] at h
      cases h
    · rw [readDigits_of_le (Nat.not_lt.1 hlong)] at h
      have habs : n.natAbs = ofDigits run := by
        have hn : (if sign = ['-'] then -(ofDigits run : Int) else ofDigits run) = n :=
          Except.ok.inj h
        split at hn <;> omega
      have hlength := length_writeNat_ofDigits_le hrun
      rw [habs]
      omega
  · have hzero : leading t = .ok 0 := leading_eq_zero fun sign run hrun => hlead ⟨sign, run, hrun⟩
    rw [hzero] at h
    cases h
    decide

end Numeral

end CommandLang
