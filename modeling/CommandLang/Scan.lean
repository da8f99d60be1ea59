/-
  CommandLang/Scan.lean
  =====================
  **Scanning the argument part of a definition.**

  The text is read from left to right, one step after another, until only spaces are left.  At each
  step the accepted forms are tried in this order:

      <name> <value>     <name>: <value>     <name>=<value>
      <name>             (flags only: the flag is set)
      <value>            (the default argument, which is the first spec of the group)

  A value ends at the next space, except that a default argument of kind string takes all of the
  remaining text.  A step yields a reading: an argument, or a note that a colour was rejected.  It
  fails where a number cannot be read or the specs do not say how to read a value.

  Main statement: a step takes at least one character (`length_rest_lt_of_step`), so a scan ends.
-/
import CommandLang.Color.Notation
import CommandLang.Flag
import CommandLang.Log
import CommandLang.Spec.Basic
import CommandLang.Text.Name

namespace CommandLang.Scan

/-! ### Readings and faults -/

inductive Reading where
  | argument (a : Argument)
  /-- The text given for a colour is not one; the argument is left out. -/
  | rejected (name raw : Text)
deriving DecidableEq, Repr

inductive Fault where
  | numeral (e : Numeral.Error)
  /-- The kind of an argument has no values to read. -/
  | unreadable (name : Text) (kind : Kind)
  /-- There is no spec, hence no default argument. -/
  | noDefault
deriving DecidableEq, Repr

def Fault.message : Fault → Text
  | .numeral e => e.message
  | .unreadable name kind =>
    "argument `" ++ name ++ "` of type " ++ kind.label ++ " has no value parser"
  | .noDefault => "tuple index out of range"

namespace Reading

def argument? : Reading → Option Argument
  | argument a => some a
  | rejected _ _ => none

def log : Reading → List Log.Entry
  | argument _ => []
  | rejected name raw =>
    [⟨.warning, "protocol.values",
      "[ARGS] invalid color value '" ++ raw ++ "' for `" ++ name ++ "`"⟩]

/-- Reads the value of an argument.  A flag has no value of this form. -/
def ofValue (name : Text) (kind : Kind) (raw : Text) : Except Fault Reading :=
  match kind with
  | .string => .ok (argument ⟨name, .string raw⟩)
  | .int =>
    match Numeral.leading raw with
    | .ok n => .ok (argument ⟨name, .int n⟩)
    | .error e => .error (.numeral e)
  | .color =>
    match Color.read raw with
    | .ok (some c) => .ok (argument ⟨name, .color c⟩)
    | .ok none => .ok (rejected name raw)
    | .error e => .error (.numeral e)
  | .untyped | .bool => .error (.unreadable name kind)

end Reading

/-! ### One step -/

structure Step where
  reading : Reading
  rest : Text
deriving DecidableEq, Repr

/-- Where the value begins, given the text after a name. -/
def valueStart? : Text → Option Text
  | ' ' :: t => some (Text.dropSpaces t)
  | ':' :: ' ' :: t => some (Text.dropSpaces t)
  | '=' :: t => some t
  | _ => none

/-- Reads the value of a named flag.  A word that is no flag word belongs to what follows, and the
    name alone sets the flag. -/
def flagStep (name start : Text) : Step :=
  let (word, rest) := start.cutAt ' '
  match Flag.read? word with
  | some flag => ⟨.argument ⟨name, .bool flag⟩, rest⟩
  | none => ⟨.argument ⟨name, .bool true⟩, start⟩

/-- Reads an argument of kind other than flag whose text runs up to the next space. -/
def valueStep (name : Text) (kind : Kind) (start : Text) : Except Fault Step := do
  let (raw, rest) := start.cutAt ' '
  return ⟨← Reading.ofValue name kind raw, rest⟩

/-- Reads a spec's argument given by name, if the text begins with the name and a value follows (or
    the text ends there and the argument is a flag). -/
def namedStep? (s : Spec) (t : Text) : Except Fault (Option Step) :=
  if t.opensWith s.name then
    match t.drop s.name.length with
    | [] => .ok (if s.kind = .bool then some ⟨.argument ⟨s.name, .bool true⟩, []⟩ else none)
    | after =>
      match valueStart? after with
      | none => .ok none
      | some start =>
        if s.kind = .bool then .ok (some (flagStep s.name start))
        else (valueStep s.name s.kind start).map some
  else .ok none

/-- Reads the argument of the first spec whose named form the text begins with. -/
def named? : List Spec → Text → Except Fault (Option Step)
  | [], _ => .ok none
  | s :: specs, t =>
    match namedStep? s t with
    | .ok none => named? specs t
    | found => found

/-- Reads the default argument. -/
def defaulted (specs : List Spec) (t : Text) : Except Fault Step :=
  match specs with
  | [] => .error .noDefault
  | s :: _ =>
    if s.kind = .string then (Reading.ofValue s.name s.kind t).map fun r => ⟨r, []⟩
    else valueStep s.name s.kind t

/-- One step: a named argument, else the default argument. -/
def step (specs : List Spec) (t : Text) : Except Fault Step :=
  match named? specs t with
  | .ok (some found) => .ok found
  | .ok none => defaulted specs t
  | .error fault => .error fault

/-! ### Progress -/

theorem length_valueStart?_lt {t start : Text} (h : valueStart? t = some start) :
    start.length < t.length := by
  unfold valueStart? at h
  split at h
  · cases h
    have := Text.length_dropSpaces_le ‹Text›
    simp only [List.length_cons]; omega
  · cases h
    have := Text.length_dropSpaces_le ‹Text›
    simp only [List.length_cons]; omega
  · cases h; simp
  · cases h

theorem length_cutAt_snd_le (c : Char) (t : Text) : (t.cutAt c).2.length ≤ t.length :=
  (Text.cutAt_snd_suffix c t).length_le

theorem length_flagStep_le (name start : Text) :
    (flagStep name start).rest.length ≤ start.length := by
  unfold flagStep
  split
  split
  · have := length_cutAt_snd_le ' ' start
    simp_all
  · exact Nat.le_refl _

theorem rest_of_valueStep {name start : Text} {kind : Kind} {s : Step}
    (h : valueStep name kind start = .ok s) : s.rest = (start.cutAt ' ').2 := by
  unfold valueStep at h
  cases hr : Reading.ofValue name kind (start.cutAt ' ').1 with
  | error e => simp [hr, bind, Except.bind] at h
  | ok r =>
    simp only [hr, bind, Except.bind, pure, Except.pure, Except.ok.injEq] at h
    rw [← h]

theorem length_rest_lt_of_namedStep? {s : Spec} {t : Text} {found : Step}
    (h : namedStep? s t = .ok (some found)) (ht : t ≠ []) : found.rest.length < t.length := by
  have hpos := List.length_pos_iff.2 ht
  unfold namedStep? at h
  split at h
  · split at h
    · split at h
      · cases h; simpa using hpos
      · cases h
    · have hdrop : (t.drop s.name.length).length ≤ t.length := by simp
      split at h
      · cases h
      · rename_i start hstart
        have hlt := length_valueStart?_lt hstart
        split at h
        · cases h
          have := length_flagStep_le s.name start
          omega
        · cases hv : valueStep s.name s.kind start with
          | error e => simp [hv, Except.map] at h
          | ok v =>
            simp only [hv, Except.map, Except.ok.injEq, Option.some.injEq] at h
            subst h
            have := length_cutAt_snd_le ' ' start
            rw [rest_of_valueStep hv]
            omega
  · cases h

theorem length_rest_lt_of_named? {specs : List Spec} {t : Text} {found : Step}
    (h : named? specs t = .ok (some found)) (ht : t ≠ []) : found.rest.length < t.length := by
  induction specs with
  | nil => simp [named?] at h
  | cons s specs ih =>
    unfold named? at h
    split at h
    · exact ih h
    · exact length_rest_lt_of_namedStep? h ht

theorem length_rest_lt_of_defaulted {specs : List Spec} {t : Text} {found : Step}
    (h : defaulted specs t = .ok found) (ht : t ≠ []) : found.rest.length < t.length := by
  have hpos := List.length_pos_iff.2 ht
  unfold defaulted at h
  split at h
  · cases h
  · rename_i s _
    split at h
    · cases hv : Reading.ofValue s.name s.kind t with
      | error e => simp [hv, Except.map] at h
      | ok r =>
        simp only [hv, Except.map, Except.ok.injEq] at h
        subst h
        simpa using hpos
    · rw [rest_of_valueStep h]
      exact Text.length_cutAt_snd_lt ' ' ht

/-- A step takes at least one character of a text that is not empty. -/
theorem length_rest_lt_of_step {specs : List Spec} {t : Text} {found : Step}
    (h : step specs t = .ok found) (ht : t ≠ []) : found.rest.length < t.length := by
  unfold step at h
  split at h
  · rename_i f hn
    cases h
    exact length_rest_lt_of_named? hn ht
  · exact length_rest_lt_of_defaulted h ht
  · cases h

/-! ### A whole scan -/

/-- All that a scan yields: its readings in the order of the text, and the fault that broke it off,
    if one did. -/
structure Trace where
  readings : List Reading
  fault : Option Fault
deriving DecidableEq, Repr

namespace Trace

/-- The trace of a text in which nothing is left to read. -/
def done : Trace := ⟨[], none⟩

def broken (fault : Fault) : Trace := ⟨[], some fault⟩

def cons (reading : Reading) (trace : Trace) : Trace := ⟨reading :: trace.readings, trace.fault⟩

/-- The arguments that were read, the last one first. -/
def arguments (trace : Trace) : List Argument :=
  (trace.readings.filterMap Reading.argument?).reverse

def log (trace : Trace) : List Log.Entry := trace.readings.flatMap Reading.log

end Trace

/-- Scans a text to its end or to the first fault. -/
def scan (specs : List Spec) (t : Text) : Trace :=
  match _ht : t.dropSpaces with
  | [] => .done
  | c :: cs =>
    match _hs : step specs (c :: cs) with
    | .error fault => .broken fault
    | .ok found => (scan specs found.rest).cons found.reading
termination_by t.length
decreasing_by
  have hlt := length_rest_lt_of_step _hs (by simp)
  have hle := Text.length_dropSpaces_le t
  rw [_ht] at hle
  omega

end CommandLang.Scan
