/-
  CommandLang/Proofs/Builtin.lean
  ===============================
  **The built-in vocabulary passes its checks.**

  Ids, names and descriptions of the commands are each given once (`check_commands`), and the specs
  of the arguments are sound (`check_specs`).  Names are words, and descriptions are words with
  little between them (`letters_of_mem_commands`), so that no other character is in any of them
  (`not_mem_name`, `not_mem_description`), and a text names one command at most
  (`toldApart_commands`).
-/
import CommandLang.Builtin
import CommandLang.Proofs.Catalog

namespace CommandLang.Builtin

theorem eq_ok_of_toBool {ε : Type} {r : Except ε Unit} (h : r.toBool = true) : r = .ok () := by
  cases r with
  | ok u => rfl
  | error e => simp [Except.toBool] at h

/-- Ids, names and descriptions are each given once. -/
theorem check_commands : Catalog.check commands = .ok () := eq_ok_of_toBool (by decide +kernel)

/-- The specs are sound and every group in use has specs. -/
theorem check_specs : Spec.check specs groups = .ok () := eq_ok_of_toBool (by decide +kernel)

/-! ### Characters -/

/-- Names are made of letters, and descriptions of letters, spaces, full stops and colons. -/
theorem letters_of_mem_commands {c : Command} (hc : c ∈ commands) :
    (c.name ≠ [] ∧ ∀ x ∈ c.name, x.isAlpha) ∧
      ∀ x ∈ c.description, x.isAlpha ∨ x = ' ' ∨ x = '.' ∨ x = ':' := by
  have hall : (commands.all fun c =>
      !c.name.isEmpty && c.name.all (·.isAlpha) &&
        c.description.all fun x => x.isAlpha || x == ' ' || x == '.' || x == ':') = true := by
    decide +kernel
  have h := List.all_eq_true.1 hall c hc
  simpa [and_assoc, or_assoc] using h

theorem not_mem_name {c : Command} (hc : c ∈ commands) {x : Char} (hx : x.isAlpha = false) :
    x ∉ c.name := by
  intro hmem
  have hletter := (letters_of_mem_commands hc).1.2 x hmem
  rw [hx] at hletter
  cases hletter

theorem not_mem_description {c : Command} (hc : c ∈ commands) {x : Char} (hx : x.isAlpha = false)
    (hother : x ≠ ' ' ∧ x ≠ '.' ∧ x ≠ ':') : x ∉ c.description := by
  intro hmem
  rcases (letters_of_mem_commands hc).2 x hmem with hletter | h | h | h
  · rw [hx] at hletter
    cases hletter
  · exact hother.1 h
  · exact hother.2.1 h
  · exact hother.2.2 h

/-! ### Telling commands apart -/

theorem distinct_commands : commands.Pairwise Catalog.Distinct :=
  (Catalog.check_eq_ok_iff.1 check_commands).2

/-- No two names are alike, and none has an `=` in it. -/
theorem toldApart_commands : Catalog.ToldApart Command.name commands := by
  apply Catalog.toldApart_name distinct_commands
  intro c hc
  exact not_mem_name hc (by decide)

end CommandLang.Builtin
