/-
  CommandLang/Log.lean
  ====================
  **The log: what is reported beside the results.**
-/
import CommandLang.Text.Basic

namespace CommandLang.Log

/-- How serious an entry is, the least serious first. -/
inductive Level where
  | debug
  | info
  | warning
  | error
deriving DecidableEq, Repr

namespace Level

/-- The word for a level. -/
def label : Level → Text
  | debug => "DEBUG"
  | info => "INFO"
  | warning => "WARNING"
  | error => "ERROR"

/-- All levels, the least serious first. -/
def all : List Level := [debug, info, warning, error]

/-- The level that a word stands for. -/
def ofLabel? (word : Text) : Option Level := all.find? (·.label == word)

/-- The position of a level among all levels. -/
def rank : Level → Nat
  | debug => 0
  | info => 1
  | warning => 2
  | error => 3

end Level

/-- One entry: its level, the part of the program that made it, and what it says. -/
structure Entry where
  level : Level
  source : Text
  message : Text
deriving DecidableEq, Repr

/-- The line that shows an entry. -/
def Entry.line (e : Entry) : Text := e.level.label ++ " " ++ e.source ++ " | " ++ e.message

/-- Whether an entry is as serious as a threshold asks. -/
def Entry.reaches (threshold : Level) (e : Entry) : Bool := threshold.rank ≤ e.level.rank

end CommandLang.Log
