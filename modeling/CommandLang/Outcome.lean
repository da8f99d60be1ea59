/-
  CommandLang/Outcome.lean
  ========================
  **Outcomes: how an attempt to resolve a definition went.**

  An outcome is shown by its code, its id and its text, so each of the three is defined for accepted
  and refused definitions alike.
-/
import CommandLang.Text.Basic

namespace CommandLang

/-- How an attempt to resolve a definition went. -/
inductive Outcome where
  | accepted (definition : Text) (id : Int) (note : Text)
  | refused (definition code message : Text)
deriving DecidableEq, Repr

namespace Outcome

/-- The definition that was tried. -/
def definition : Outcome → Text
  | accepted definition _ _ => definition
  | refused definition _ _ => definition

/-- Whether the definition was accepted. -/
def isAccepted : Outcome → Bool
  | accepted _ _ _ => true
  | refused _ _ _ => false

/-- The code of the outcome. -/
def code : Outcome → Text
  | accepted _ _ _ => "OK"
  | refused _ code _ => code

/-- What is said about the outcome; often nothing. -/
def text : Outcome → Text
  | accepted _ _ note => note
  | refused _ _ message => message

/-- The id that stands for no command. -/
def noId : Int := -1

/-- The id that the definition resolved to. -/
def id : Outcome → Int
  | accepted _ id _ => id
  | refused _ _ _ => noId

end Outcome

end CommandLang
