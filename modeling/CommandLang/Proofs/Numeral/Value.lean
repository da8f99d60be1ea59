/-
  CommandLang/Proofs/Numeral/Value.lean
  =====================================
  **What a run of digits is worth.**

  A digit has its value in every script, and a run of digits is worth what its digits are worth in
  base ten (`HasValue`).  That is the usual value of a list of digits, the first of which counts
  most; the value that is computed digit by digit from the left is the same (`hasValue_iff`).
-/
import CommandLang.Proofs.Numeral
import Mathlib.Data.Nat.Digits.Defs

namespace CommandLang.Numeral

/-- The characters are decimal digits, of whatever scripts, and the number is their value in base
    ten. -/
def HasValue (run : Text) (n : Nat) : Prop :=
  ∃ digits : List Nat, run.map digitValue? = digits.map some ∧ n = Nat.ofDigits 10 digits.reverse

theorem ofDigits_of_map_digitValue? {run : Text} {digits : List Nat}
    (h : run.map digitValue? = digits.map some) :
    ofDigits run = Nat.ofDigits 10 digits.reverse := by
  calc ofDigits run
      = (run.map digitValue?).foldl (fun n value => 10 * n + value.getD 0) 0 := by
        rw [List.foldl_map]
        rfl
    _ = digits.foldl (fun n d => 10 * n + d) 0 := by
        rw [h, List.foldl_map]
        rfl
    _ = Nat.ofDigits 10 digits.reverse := by
        rw [Nat.ofDigits_eq_foldr, List.foldr_reverse]
        simp only [Nat.cast_id, Nat.add_comm]

theorem exists_digits_iff {run : Text} :
    (∃ digits : List Nat, run.map digitValue? = digits.map some) ↔ ∀ c ∈ run, isDigit c := by
  constructor
  · rintro ⟨digits, h⟩ c hc
    have hvalue : digitValue? c ∈ digits.map some := by
      rw [← h]
      exact List.mem_map_of_mem hc
    obtain ⟨d, -, hd⟩ := List.mem_map.1 hvalue
    simp [isDigit, ← hd]
  · intro h
    refine ⟨run.map fun c => (digitValue? c).getD 0, ?_⟩
    rw [List.map_map]
    apply List.map_congr_left
    intro c hc
    obtain ⟨d, hd⟩ := Option.isSome_iff_exists.1 (h c hc)
    simp [hd]

/-- A run has one value, the one that is computed from the left. -/
theorem hasValue_iff {run : Text} {n : Nat} :
    HasValue run n ↔ (∀ c ∈ run, isDigit c) ∧ ofDigits run = n := by
  constructor
  · rintro ⟨digits, hdigits, rfl⟩
    exact ⟨exists_digits_iff.1 ⟨digits, hdigits⟩, ofDigits_of_map_digitValue? hdigits⟩
  · rintro ⟨hall, rfl⟩
    obtain ⟨digits, hdigits⟩ := exists_digits_iff.2 hall
    exact ⟨digits, hdigits, ofDigits_of_map_digitValue? hdigits⟩

theorem IsRun.hasValue {run : Text} (h : IsRun run) : HasValue run (ofDigits run) :=
  hasValue_iff.2 ⟨h.2, rfl⟩

end CommandLang.Numeral
