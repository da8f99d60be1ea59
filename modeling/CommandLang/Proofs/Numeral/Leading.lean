/-
  CommandLang/Proofs/Numeral/Leading.lean
  =======================================
  **The number that a text begins with.**

  A text that begins with blanks, an optional sign and digits is read as the number of all the
  digits that follow one another there, or refused if they are too many, and any other text is read
  as 0.  Main statement: `leading_is_first_number`.
-/
import CommandLang.Proofs.Numeral.Value

namespace CommandLang.Numeral

/-- After its blanks, the text goes on with the sign and a digit. -/
theorem LeadsWith.exists_trimLeft {t sign run : Text} (h : LeadsWith t sign run) :
    ∃ c rest, isDigit c ∧ t.trimLeft = sign ++ c :: rest := by
  obtain ⟨blanks, rest, rfl, hblanks, hsign, hrun, -⟩ := h
  obtain ⟨c, cs, rfl, hc⟩ := hrun.exists_cons
  exact ⟨c, cs ++ rest, hc, trimLeft_append_sign hblanks hsign hrun rest⟩

theorem leading_eq_of_leadsWith {t sign run : Text} (h : LeadsWith t sign run) :
    leading t =
      if run.length ≤ 4300 then .ok (if sign = ['-'] then -(ofDigits run : Int) else ofDigits run)
      else .error (.tooLong run.length) := by
  rw [leading_of_leadsWith h]
  by_cases hle : run.length ≤ 4300
  · rw [readDigits_of_le hle, if_pos hle]
    rfl
  · rw [readDigits_of_lt (Nat.not_le.1 hle), if_neg hle]
    rfl

theorem writeNat_infix_message (digits : Nat) :
    writeNat digits <:+: (Error.tooLong digits).message :=
  ⟨_, _, rfl⟩

/-- **A text is read as the number that it begins with**, of all the digits that follow one another
    there, whatever their scripts.  More than 4300 digits are refused, and their number is named.  A
    text that does not begin with a number counts as 0.  So a written number is read back, after any
    blanks and before anything but a digit. -/
theorem leading_is_first_number :
    (∀ t sign run, LeadsWith t sign run →
        ∃ n, HasValue run n ∧
          leading t =
            if run.length ≤ 4300 then .ok (if sign = ['-'] then -(n : Int) else n)
            else .error (.tooLong run.length)) ∧
      (∀ t, (∀ sign run, ¬ LeadsWith t sign run) → leading t = .ok 0) ∧
      (∀ digits, writeNat digits <:+: (Error.tooLong digits).message) ∧
      ∀ (n : Int) (w t : Text), (writeNat n.natAbs).length ≤ 4300 → (∀ c ∈ w, isBlank c) →
        (∀ c ∈ t.head?, isDigit c = false) → leading (w ++ write n ++ t) = .ok n := by
  refine ⟨?_, fun t => leading_eq_zero, writeNat_infix_message, ?_⟩
  · intro t sign run h
    have hrun : IsRun run := by
      obtain ⟨_, _, -, -, -, hrun, -⟩ := h
      exact hrun
    exact ⟨_, hrun.hasValue, leading_eq_of_leadsWith h⟩
  · intro n w t hlen hw ht
    exact leading_append_write hlen hw ht

/-- Digits of two scripts after a sign, a sign that no digit follows, and one digit too many. -/
theorem leading_is_first_number_at_the_bounds :
    leading "\u2003-٣৪x" = .ok (-34) ∧ leading "+-5" = .ok 0 ∧
      leading (List.replicate 4301 '7') = .error (.tooLong 4301) ∧
      leading ("\t" ++ write (-12) ++ "abc") = .ok (-12) := by
  obtain ⟨hnumber, hnone, -, hwritten⟩ := leading_is_first_number
  refine ⟨?_, ?_, ?_, ?_⟩
  · have hlead : LeadsWith "\u2003-٣৪x" "-" "٣৪" :=
      ⟨"\u2003", "x", by decide, by decide, .inr (.inl rfl), ⟨by decide, by decide⟩, by decide⟩
    obtain ⟨n, hvalue, hread⟩ := hnumber _ _ _ hlead
    obtain ⟨-, rfl⟩ := hasValue_iff.1 hvalue
    rw [hread]
    decide
  · apply hnone
    intro sign run hlead
    have hsign : sign = [] ∨ sign = ['-'] ∨ sign = ['+'] := by
      obtain ⟨_, _, -, -, hsign, -⟩ := hlead
      exact hsign
    obtain ⟨c, rest, hc, htrim⟩ := hlead.exists_trimLeft
    have htext : ['+', '-', '5'] = sign ++ c :: rest := htrim
    rcases hsign with rfl | rfl | rfl
    · obtain ⟨rfl, -⟩ := List.cons.inj htext
      revert hc
      decide
    · exact absurd (List.cons.inj htext).1 (by decide)
    · obtain ⟨rfl, -⟩ := List.cons.inj (List.cons.inj htext).2
      revert hc
      decide
  · -- for any number of digits above the limit, since 4301 of them are not to be written out
    have hlong : ∀ k, 4300 < k → leading (List.replicate k '7') = .error (.tooLong k) := by
      intro k hk
      have hrun : IsRun (List.replicate k '7') := by
        refine ⟨by rw [ne_eq, List.replicate_eq_nil_iff]; omega, ?_⟩
        intro c hc
        obtain rfl := List.eq_of_mem_replicate hc
        decide
      obtain ⟨n, -, hread⟩ := hnumber (List.replicate k '7') [] _
        ⟨[], [], (List.append_nil _).symm, by simp, .inl rfl, hrun, by simp⟩
      rw [hread, List.length_replicate, if_neg (Nat.not_le.2 hk)]
    exact hlong 4301 (by decide)
  · exact hwritten (-12) "\t" "abc" (by decide) (by decide) (by decide)

end CommandLang.Numeral
