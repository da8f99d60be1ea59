/-
  CommandLang/Catalog.lean
  ========================
  **Catalogs of commands.**

  A catalog lists commands in order.  A command is found by its id, or by a text that denotes its
  name or its description (`Text.denotes`); the first match counts.  `Catalog.check` tells whether
  ids, names and descriptions are each given once.
-/
import CommandLang.Numeral
import CommandLang.Text.Name

namespace CommandLang

structure Command where
  id : Int
  name : Text
  description : Text
deriving DecidableEq, Repr

/-- Commands in the order in which they are listed and searched. -/
abbrev Catalog := List Command

namespace Catalog

/-! ### Look-up -/

/-- The first command that a text denotes by the given feature. -/
def denotedBy? (key : Command → Text) (commands : Catalog) (t : Text) : Option Command :=
  commands.find? fun c => t.denotes (key c)

def idByName? (commands : Catalog) (t : Text) : Option Int :=
  (denotedBy? Command.name commands t).map Command.id

def idByDescription? (commands : Catalog) (t : Text) : Option Int :=
  (denotedBy? Command.description commands t).map Command.id

def find? (commands : Catalog) (id : Int) : Option Command := List.find? (·.id == id) commands

/-- The greatest id, and 0 for an empty catalog. -/
def maxId : Catalog → Int
  | [] => 0
  | c :: rest => rest.foldl (fun m c => max m c.id) c.id

/-! ### Validity -/

inductive Fault where
  | invalidId (id : Int)
  | repeatedName (name : Text)
  | repeatedDescription (description : Text)
deriving DecidableEq, Repr

def Fault.message : Fault → Text
  | .invalidId id => "invalid or duplicate command id: " ++ Numeral.write id
  | .repeatedName name => "duplicate command name: " ++ name
  | .repeatedDescription description => "duplicate command description: " ++ description

/-- The fault of a command that comes after the commands `earlier`. -/
def faultOf? (earlier : Catalog) (c : Command) : Option Fault :=
  if c.id = 0 ∨ earlier.any (·.id == c.id) then some (.invalidId c.id)
  else if earlier.any (·.name.fold == c.name.fold) then some (.repeatedName c.name)
  else if earlier.any (·.description.fold == c.description.fold) then
    some (.repeatedDescription c.description)
  else none

def checkAfter (earlier : Catalog) : Catalog → Except Fault Unit
  | [] => .ok ()
  | c :: rest =>
    match faultOf? earlier c with
    | some fault => .error fault
    | none => checkAfter (c :: earlier) rest

/-- Checks a catalog; the first command at fault is reported. -/
def check (commands : Catalog) : Except Fault Unit := checkAfter [] commands

end Catalog

end CommandLang
