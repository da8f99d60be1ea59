/-
  CommandLang/Spec/Basic.lean
  ===========================
  **Declarations of arguments, by group.**

  A table of specs declares the arguments of all groups, one group after another.  The specs of a
  group are found as the run of equal group numbers that starts at the group's first spec; the first
  spec of a run is the default argument, which may be given without its name.  Commands share a
  group by being mapped to it (`Groups`).
-/
import CommandLang.Argument
import CommandLang.Keyed

namespace CommandLang

structure Spec where
  group : Int
  name : Text
  kind : Kind
deriving DecidableEq, Repr

namespace Spec

def firstIndex? (group : Int) (specs : List Spec) : Option Nat :=
  specs.findIdx? (·.group == group)

/-- The specs at the head of the table that belong to one group. -/
def run : List Spec → List Spec
  | [] => []
  | s :: rest => s :: rest.takeWhile (·.group == s.group)

/-- The run that starts at a position.  A negative position counts from the end of the table; a
    position outside the table has no run. -/
def runAt? (index : Int) (specs : List Spec) : Option (List Spec) :=
  let start := if index < 0 then index + specs.length else index
  if 0 ≤ start ∧ start < specs.length then some (run (specs.drop start.toNat)) else none

/-- The specs of a group: the run at its first spec, and none for a group that has no spec. -/
def ofGroup (group : Int) (specs : List Spec) : List Spec :=
  match firstIndex? group specs with
  | some index => run (specs.drop index)
  | none => []

@[simp] theorem run_nil : run [] = [] := rfl

theorem run_eq_nil_iff {specs : List Spec} : run specs = [] ↔ specs = [] := by
  cases specs <;> simp [run]

/-- A group has specs exactly if one is found in the table. -/
theorem ofGroup_eq_nil_iff {group : Int} {specs : List Spec} :
    ofGroup group specs = [] ↔ firstIndex? group specs = none := by
  unfold ofGroup
  split
  · rename_i index h
    have hlt : index < specs.length := (List.findIdx?_eq_some_iff_getElem.1 h).1
    simp [run_eq_nil_iff, h, hlt]
  · rename_i h
    simp [h]

end Spec

/-- The group of each command that takes arguments. -/
abbrev Groups := Keyed Int

namespace Groups

def group? (groups : Groups) (command : Int) : Option Int := Keyed.get? groups command

/-- A command takes arguments if it is mapped to a group. -/
def accepts (groups : Groups) (command : Int) : Bool := Keyed.has groups command

/-- The group of a command; a command that is mapped to none stands for itself. -/
def groupOf (groups : Groups) (command : Int) : Int := (groups.group? command).getD command

/-- Maps a command to a group, in place of the group it had. -/
def set (groups : Groups) (command group : Int) : Groups := Keyed.put groups command group

end Groups

end CommandLang
