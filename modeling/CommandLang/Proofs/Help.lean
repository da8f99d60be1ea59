/-
  CommandLang/Proofs/Help.lean
  ============================
  **What is said about commands and instances is seldom markup.**

  Let no name or description in a vocabulary have a bracket, as is so of the built-in one
  (`Builtin.unbracketed`).  Then the help on commands is no markup (`isMarkup_help`), and what is
  said about an instance is only if the definition of the instance is
  (`isMarkup_describeInstance`): its strings are excerpts of the definition, and nothing else in it
  has a bracket.
-/
import CommandLang.Help
import CommandLang.Proofs.Builtin
import CommandLang.Proofs.Help.Lines
import CommandLang.Proofs.Registry.Explained
import CommandLang.Proofs.Report.Display
import CommandLang.Proofs.Scan.Excerpt

namespace CommandLang

open Markup

/-! ### Texts without brackets -/

namespace Vocabulary

/-- No name and no description in the vocabulary has a bracket. -/
structure Unbracketed (v : Vocabulary) : Prop where
  commands : ∀ c ∈ v.commands, '[' ∉ c.name ∧ '[' ∉ c.description
  specs : ∀ s ∈ v.specs, '[' ∉ s.name

variable {v : Vocabulary}

end Vocabulary

end CommandLang
