/-
  CommandLang/Proofs/Scan/Spelling.lean
  =====================================
  **A named argument may be spelled in three ways.**

      <name>=<value>     <name> <value>     <name>: <value>

  The name may be written in any case, and for one space there may be many.  Where no name has a sign
  in it the spelling makes no difference: the text opens with that spec and no other, its value
  begins at the same place, and what comes after the value is scanned by itself (`Composed`).  A word
  that is no flag word does not belong to a flag; it is scanned again with what comes after it.

  Main statement: `spellings_agree`.
-/
import CommandLang.Proofs.Scan.Order

namespace CommandLang.Scan

variable {specs : List Spec} {s : Spec} {word sep sep' v rest start : Text}

/-! ### What a scan comes to -/

/-- The arguments of a scan with the last one first, or the fault that broke the scan off. -/
def Trace.outcome (trace : Trace) : Except Fault (List Argument) :=
  match trace.fault with
  | some fault => .error fault
  | none => .ok trace.arguments

theorem Trace.outcome_broken (fault : Fault) : (broken fault).outcome = .error fault := rfl

/-- An argument that comes first in the text comes last in the list. -/
theorem Trace.outcome_cons_argument (a : Argument) (trace : Trace) :
    (trace.cons (.argument a)).outcome = trace.outcome.map (· ++ [a]) := by
  obtain ⟨readings, fault⟩ := trace
  cases fault with
  | some fault => rfl
  | none => simp [outcome, cons, arguments, Reading.argument?, Except.map]

theorem Trace.outcome_cons_rejected (name raw : Text) (trace : Trace) :
    (trace.cons (.rejected name raw)).outcome = trace.outcome := by
  obtain ⟨readings, fault⟩ := trace
  cases fault <;> rfl

/-! ### Between a name and its value -/

/-- What may stand between a name and its value. -/
inductive Separator : Text → Prop
  | equals : Separator ['=']
  | spaces (n : Nat) : Separator (List.replicate (n + 1) ' ')
  | colon (n : Nat) : Separator (':' :: List.replicate (n + 1) ' ')

theorem Separator.valueStart?_append (hsep : Separator sep) (hstart : start.dropSpaces = start) :
    valueStart? (sep ++ start) = some start := by
  have hspaces : ∀ n, Text.dropSpaces (List.replicate n ' ' ++ start) = start := by
    intro n
    rw [Text.dropSpaces_replicate_append, hstart]
  cases hsep with
  | equals => rfl
  | spaces n => exact congrArg some (hspaces n)
  | colon n => exact congrArg some (hspaces n)

/-- The scan of a text that opens with a spec, from where the value of the spec begins. -/
def scanAt (specs : List Spec) (s : Spec) (start : Text) : Trace :=
  match readAt s start with
  | .error fault => .broken fault
  | .ok found => (scan specs found.rest).cons found.reading

/-- However a spec is named, the scan goes on where its value begins. -/
theorem scan_spelled (hspecs : Spec.Delimited specs) (hs : s ∈ specs) (hname : s.name ≠ [])
    (hlen : word.length = s.name.length) (hfold : word.fold = s.name.fold) (hsep : Separator sep)
    (hstart : start.dropSpaces = start) :
    scan specs (word ++ (sep ++ start)) = scanAt specs s start := by
  have hword : word ≠ [] := by
    rintro rfl
    exact hname (List.length_eq_zero_iff.1 hlen.symm)
  have hspace : ' ' ∉ word := hspecs.space_not_mem hs hfold
  have hdrop : (word ++ (sep ++ start)).dropSpaces = word ++ (sep ++ start) :=
    Text.dropSpaces_append_of_not_mem hword hspace _
  have hne : (word ++ (sep ++ start)).dropSpaces ≠ [] := by simp [hdrop, hword]
  have hopen : openedBy? specs (word ++ (sep ++ start)) = some (s, start) :=
    (openedBy?_eq_some_iff hspecs).2
      ⟨hs, opened?_of_fold_eq hlen hfold (hsep.valueStart?_append hstart)⟩
  have hstep : step specs (word ++ (sep ++ start)).dropSpaces = readAt s start := by
    rw [hdrop, step_eq, hopen]
  unfold scanAt
  cases hread : readAt s start with
  | error f => exact scan_of_fault hne (hstep.trans hread)
  | ok found => exact scan_of_step hne (hstep.trans hread)

/-! ### What the value and the rest come to -/

/-- The argument that a word denotes as the value of a spec. -/
inductive Denotes (s : Spec) (v : Text) : Argument → Prop
  | string : s.kind = .string → Denotes s v ⟨s.name, .string v⟩
  | int {n : Int} : s.kind = .int → Numeral.leading v = .ok n → Denotes s v ⟨s.name, .int n⟩
  | flag {b : Bool} : s.kind = .bool → Flag.read? v = some b → Denotes s v ⟨s.name, .bool b⟩
  | color {c : Color} : s.kind = .color → Color.read v = .ok (some c) →
      Denotes s v ⟨s.name, .color c⟩

/-- The numeral in a word cannot be read as the value of a spec. -/
inductive Refuses (s : Spec) (v : Text) : Numeral.Error → Prop
  | int {e : Numeral.Error} : s.kind = .int → Numeral.leading v = .error e → Refuses s v e
  | color {e : Numeral.Error} : s.kind = .color → Color.read v = .error e → Refuses s v e

/-- What a word given for a spec and the text after it come to. -/
inductive Composed (specs : List Spec) (s : Spec) (v rest : Text) :
    Except Fault (List Argument) → Prop
  | value {a : Argument} : Denotes s v a →
      Composed specs s v rest ((scan specs rest).outcome.map (· ++ [a]))
  | rejected : s.kind = .color → Color.read v = .ok none →
      Composed specs s v rest (scan specs rest).outcome
  /-- The name alone sets the flag, and the word belongs to what follows. -/
  | bare : s.kind = .bool → Flag.read? v = none →
      Composed specs s v rest
        ((scan specs (v ++ ' ' :: rest)).outcome.map (· ++ [⟨s.name, .bool true⟩]))
  | refused {e : Numeral.Error} : Refuses s v e → Composed specs s v rest (.error (.numeral e))

theorem composed_scanAt_flag (hkind : s.kind = .bool) (hspace : ' ' ∉ v) (rest : Text) :
    Composed specs s v rest (scanAt specs s (v ++ ' ' :: rest)).outcome := by
  have hread : readAt s (v ++ ' ' :: rest) = .ok (flagStep s.name (v ++ ' ' :: rest)) :=
    if_pos hkind
  simp only [scanAt, hread, flagStep, Text.cutAt_append hspace]
  cases hflag : Flag.read? v with
  | none =>
    simp only [Trace.outcome_cons_argument]
    exact .bare hkind hflag
  | some b =>
    simp only [Trace.outcome_cons_argument]
    exact .value (.flag hkind hflag)

theorem composed_scanAt_value (htyped : s.kind ≠ .untyped) (hkind : s.kind ≠ .bool)
    (hspace : ' ' ∉ v) (rest : Text) :
    Composed specs s v rest (scanAt specs s (v ++ ' ' :: rest)).outcome := by
  have hread : readAt s (v ++ ' ' :: rest) =
      (Reading.ofValue s.name s.kind v).map fun r => ⟨r, rest⟩ := by
    rw [readAt, if_neg hkind, valueStep_eq, Text.cutAt_append hspace]
  simp only [scanAt, hread]
  cases hcase : s.kind with
  | untyped => exact absurd hcase htyped
  | bool => exact absurd hcase hkind
  | string =>
    simp only [Reading.ofValue, Except.map, Trace.outcome_cons_argument]
    exact .value (.string hcase)
  | int =>
    cases hn : Numeral.leading v with
    | error e =>
      simp only [Reading.ofValue, hn, Except.map, Trace.outcome_broken]
      exact .refused (.int hcase hn)
    | ok n =>
      simp only [Reading.ofValue, hn, Except.map, Trace.outcome_cons_argument]
      exact .value (.int hcase hn)
  | color =>
    cases hc : Color.read v with
    | error e =>
      simp only [Reading.ofValue, hc, Except.map, Trace.outcome_broken]
      exact .refused (.color hcase hc)
    | ok c =>
      cases c with
      | none =>
        simp only [Reading.ofValue, hc, Except.map, Trace.outcome_cons_rejected]
        exact .rejected hcase hc
      | some c =>
        simp only [Reading.ofValue, hc, Except.map, Trace.outcome_cons_argument]
        exact .value (.color hcase hc)

/-- **The three spellings of a named argument are interchangeable**, and what comes after the value
    is scanned by itself: the value adds its argument to that, or breaks the scan off before it. -/
theorem spellings_agree (hspecs : Spec.Delimited specs) (htyped : ∀ s ∈ specs, s.kind ≠ .untyped)
    (hnames : ∀ s ∈ specs, s.name ≠ []) (hs : s ∈ specs) (hlen : word.length = s.name.length)
    (hfold : word.fold = s.name.fold) (hv : v ≠ []) (hspace : ' ' ∉ v) (rest : Text)
    (hsep : Separator sep) (hsep' : Separator sep') :
    scan specs (word ++ sep ++ v ++ ' ' :: rest) = scan specs (word ++ sep' ++ v ++ ' ' :: rest) ∧
      Composed specs s v rest (scan specs (word ++ sep ++ v ++ ' ' :: rest)).outcome := by
  have hstart := Text.dropSpaces_append_of_not_mem hv hspace (' ' :: rest)
  have hscan : ∀ {sep}, Separator sep →
      scan specs (word ++ sep ++ v ++ ' ' :: rest) = scanAt specs s (v ++ ' ' :: rest) := by
    intro sep hsep
    rw [List.append_assoc, List.append_assoc]
    exact scan_spelled hspecs hs (hnames s hs) hlen hfold hsep hstart
  rw [hscan hsep, hscan hsep']
  refine ⟨rfl, ?_⟩
  by_cases hkind : s.kind = .bool
  · exact composed_scanAt_flag hkind hspace rest
  · exact composed_scanAt_value (htyped s hs) hkind hspace rest

/-- A flag with a colour behind it, which is no flag word, in a group where one name is the beginning
    of the other. -/
theorem spellings_agree_on_bare_flag :
    let specs : List Spec := [⟨1, "color", .color⟩, ⟨1, "colored", .bool⟩]
    Spec.Delimited specs ∧ (∀ s ∈ specs, s.kind ≠ .untyped) ∧ (∀ s ∈ specs, s.name ≠ []) ∧
      Text.fold "COLORED" = Text.fold "colored" ∧ Separator "=" ∧ Separator ":  " ∧
      scan specs "COLORED=#ff0000 x" = scan specs "COLORED:  #ff0000 x" ∧
      Composed specs ⟨1, "colored", .bool⟩ "#ff0000" "x"
        (.ok [⟨"color", .color ⟨255, 0, 0, 255⟩⟩, ⟨"colored", .bool true⟩]) := by
  intro specs
  have hspecs : Spec.Delimited specs := ⟨⟨by decide, by decide⟩, by decide⟩
  have htyped : ∀ s ∈ specs, s.kind ≠ .untyped := by decide
  have hnames : ∀ s ∈ specs, s.name ≠ [] := by decide
  have hs : (⟨1, "colored", .bool⟩ : Spec) ∈ specs := by decide
  have hlen : ("COLORED" : Text).length = ("colored" : Text).length := by decide
  have hfold : Text.fold "COLORED" = Text.fold "colored" := by decide
  have hv : ("#ff0000" : Text) ≠ [] ∧ ' ' ∉ ("#ff0000" : Text) := by decide
  have hcolon : Separator ":  " := .colon 1
  obtain ⟨hsame, hcomposed⟩ :=
    spellings_agree hspecs htyped hnames hs hlen hfold hv.1 hv.2 "x" .equals hcolon
  refine ⟨hspecs, htyped, hnames, hfold, .equals, hcolon, hsame, ?_⟩
  have houtcome : (scan specs "COLORED=#ff0000 x").outcome =
      .ok [⟨"color", .color ⟨255, 0, 0, 255⟩⟩, ⟨"colored", .bool true⟩] := by
    have hscan : scan specs "COLORED=#ff0000 x" =
        ⟨[.argument ⟨"colored", .bool true⟩, .argument ⟨"color", .color ⟨255, 0, 0, 255⟩⟩,
          .rejected "color" "x"], none⟩ := by decide +kernel
    rw [hscan]
    rfl
  rw [← houtcome]
  exact hcomposed

end CommandLang.Scan
