/-
  CommandLang/Spec/Check.lean
  ===========================
  **Checking a table of specs.**

  A table is sound when every spec has a kind, the specs of a group stand together, no group begins
  with a flag, no group declares two names that are alike, and every group that a command is mapped
  to has a spec.  `check` goes through the table once and reports the first fault.
-/
import CommandLang.Spec.Basic
import CommandLang.Text.Fold

namespace CommandLang.Spec

inductive Fault where
  | untyped (name : Text)
  /-- A group's specs resume after another group's. -/
  | scattered (group : Int)
  /-- A group begins with a flag, which cannot be given without its name. -/
  | defaultFlag (name : Text)
  /-- A group declares two names that are alike. -/
  | duplicate (name : Text) (group : Int)
  | noSpecs (command group : Int)
deriving DecidableEq, Repr

def Fault.message : Fault → Text
  | .untyped name => "argument `" ++ name ++ "` has no type"
  | .scattered group =>
    "argument specs for group " ++ Numeral.write group ++ " are not contiguous"
  | .defaultFlag name => "default argument `" ++ name ++ "` cannot be a bool"
  | .duplicate name group =>
    "duplicate argument `" ++ name ++ "` in group " ++ Numeral.write group
  | .noSpecs command group =>
    "command " ++ Numeral.write command ++ " maps to group " ++ Numeral.write group ++
      " which has no argument specs"

/-- What the check remembers of the specs before the one at hand. -/
structure Progress where
  finished : List Int := []
  /-- The group of the run at hand. -/
  current : Option Int := none
  /-- The folded names declared in that run. -/
  names : List Text := []

/-- Enters the group of a spec, if it is not the group at hand. -/
def Progress.enter (p : Progress) (s : Spec) : Except Fault Progress :=
  if p.current = some s.group then .ok p
  else if p.finished.contains s.group then .error (.scattered s.group)
  else if s.kind = .bool then .error (.defaultFlag s.name)
  else .ok ⟨p.current.toList ++ p.finished, some s.group, []⟩

def Progress.add (p : Progress) (s : Spec) : Except Fault Progress :=
  if s.kind = .untyped then .error (.untyped s.name)
  else do
    let p ← p.enter s
    if p.names.contains s.name.fold then .error (.duplicate s.name s.group)
    else .ok { p with names := s.name.fold :: p.names }

def checkSpecs (specs : List Spec) : Except Fault Unit := do
  let _ ← specs.foldlM Progress.add {}

def checkGroups (specs : List Spec) (groups : Groups) : Except Fault Unit :=
  match groups.find? fun entry => !specs.any (·.group == entry.2) with
  | some (command, group) => .error (.noSpecs command group)
  | none => .ok ()

def check (specs : List Spec) (groups : Groups) : Except Fault Unit := do
  checkSpecs specs
  checkGroups specs groups

end CommandLang.Spec
