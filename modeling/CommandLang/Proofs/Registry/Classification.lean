/-
  CommandLang/Proofs/Registry/Classification.lean
  ===============================================
  **What becomes of a definition is told from its parts.**

  A definition falls under one of a few cases, by what stands in the place of its name and what
  stands behind it; which one does not depend on the registry.  `Registry.Classified` says of each
  case when a definition falls under it, and `Registry.Scanned` what comes of the arguments.

  Whether a command takes arguments is looked up in the groups each time: when a definition is
  resolved, in the help on the command, and in its row in the table.

  Main statement: whatever the groups are, definitions are resolved as they are classified, and
  arguments are refused of exactly those commands that have `Args: none` in their help and a dash in
  their row (`resolve_is_classified`).
-/
import CommandLang.Proofs.Definition
import CommandLang.Proofs.Help.Lines
import CommandLang.Proofs.Registry.Resolution

namespace CommandLang

open Definition (namePart tailPart)

variable {v : Vocabulary} {d : Text} {c : Command}

/-- The definition is not blank, and its name is that of the command. -/
structure Vocabulary.Names (v : Vocabulary) (d : Text) (c : Command) : Prop where
  notBlank : d.isAllBlank = false
  mem : c ∈ v.commands
  denotes : (namePart d).denotes c.name

theorem Vocabulary.Names.idByName? (h : v.Names d c)
    (hv : Catalog.ToldApart Command.name v.commands) :
    v.commands.idByName? (namePart d) = some c.id := hv.idByName?_of_denotes h.mem h.denotes

namespace Registry

variable {r : Registry} {code : Text}

/-! ### The cases of a definition -/

def RefusedWith (v : Vocabulary) (r : Registry) (d code : Text) : Prop :=
  ∃ reason, (r.resolve v d).result = .error (.refused reason) ∧ reason.code = code

/-- What comes of a definition whose arguments are scanned with this trace. -/
structure Scanned (v : Vocabulary) (r : Registry) (d : Text) (id : Int) (trace : Scan.Trace) :
    Prop where
  malformed : RefusedWith v r d "MALFORMED_DEFINITION" ↔ trace.fault = none ∧ trace.arguments = []
  made : (r.resolve v d).result = .ok r.nextId ∧
      (r.resolve v d).registry = r.store id d trace.arguments ↔
    trace.fault = none ∧ trace.arguments ≠ []
  fault : ∀ f, (r.resolve v d).result = .error (.fault f) ↔ trace.fault = some f

/-- Each case of a definition, where none of the cases before it is met. -/
structure Classified (v : Vocabulary) (r : Registry) (d : Text) : Prop where
  empty : RefusedWith v r d "EMPTY_DEFINITION" ↔ d.isAllBlank
  unknown : d.isAllBlank = false →
    (RefusedWith v r d "UNKNOWN_COMMAND" ↔ ∀ c ∈ v.commands, (namePart d).denotes c.name = false)
  plain : ∀ c, v.Names d c →
    ((r.resolve v d).result = .ok c.id ∧ (r.resolve v d).registry = r ↔ (tailPart d).isAllBlank)
  noArguments : ∀ c, v.Names d c → (tailPart d).isAllBlank = false →
    (RefusedWith v r d "NO_ARGUMENTS" ↔ v.specsFor c.id = [])
  /-- The further spaces before the arguments are left out of the scan. -/
  scanned : ∀ c, v.Names d c → (tailPart d).isAllBlank = false → v.specsFor c.id ≠ [] →
    Scanned v r d c.id (Scan.scan (v.specsFor c.id) (tailPart d).dropSpaces)

/-! ### Resolving by the verdict -/

theorem refusedWith_iff_of_refused {reason : Refusal} (h : v.judge d = .refused reason) :
    RefusedWith v r d code ↔ reason.code = code := by
  rw [RefusedWith, resolve, h]
  constructor
  · rintro ⟨_, ⟨⟩, hcode⟩
    exact hcode
  · intro hcode
    exact ⟨reason, rfl, hcode⟩

theorem resolve_of_plain {id : Int} (h : v.judge d = .plain id) :
    r.resolve v d = ⟨.ok id, r, []⟩ := by
  rw [resolve, h]

theorem not_refusedWith_of_plain {id : Int} (h : v.judge d = .plain id) :
    ¬ RefusedWith v r d code := by
  rintro ⟨reason, hresult, -⟩
  rw [resolve_of_plain h] at hresult
  cases hresult

/-- The registry has changed if an instance was stored. -/
theorem store_ne_self (id : Int) (arguments : List Argument) : r.store id d arguments ≠ r := by
  intro h
  have hnext : r.nextId + 1 = r.nextId := congrArg nextId h
  omega

section Scan

variable {id : Int} {trace : Scan.Trace}

/-- A scan ends with a fault, without arguments or with some. -/
theorem resolve_cases_of_scanned (r : Registry) (h : v.judge d = .scanned id trace) :
    (∃ f, trace.fault = some f ∧ (r.resolve v d).result = .error (.fault f)) ∨
      (trace.fault = none ∧ trace.arguments = [] ∧
        (r.resolve v d).result = .error (.refused .malformed)) ∨
      (trace.fault = none ∧ trace.arguments ≠ [] ∧ (r.resolve v d).result = .ok r.nextId ∧
        (r.resolve v d).registry = r.store id d trace.arguments) := by
  simp only [resolve, h]
  cases trace.fault with
  | some f => exact .inl ⟨f, rfl, rfl⟩
  | none =>
    cases trace.arguments with
    | nil => exact .inr (.inl ⟨rfl, rfl, rfl⟩)
    | cons a rest => exact .inr (.inr ⟨rfl, List.cons_ne_nil a rest, rfl, rfl⟩)

theorem code_eq_of_scanned (h : v.judge d = .scanned id trace) (hcode : RefusedWith v r d code) :
    code = "MALFORMED_DEFINITION" := by
  obtain ⟨reason, hresult, rfl⟩ := hcode
  rcases resolve_cases_of_scanned r h with ⟨f, -, hf⟩ | ⟨-, -, hf⟩ | ⟨-, -, hf, -⟩
  all_goals
    rw [hf] at hresult
    cases hresult
  rfl

theorem registry_ne_of_scanned (h : v.judge d = .scanned id trace) {issued : Int}
    (hid : (r.resolve v d).result = .ok issued) : (r.resolve v d).registry ≠ r := by
  rcases resolve_cases_of_scanned r h with ⟨f, -, hf⟩ | ⟨-, -, hf⟩ | ⟨-, -, -, hregistry⟩
  · rw [hf] at hid
    cases hid
  · rw [hf] at hid
    cases hid
  · rw [hregistry]
    exact store_ne_self _ _

theorem scanned_of_judge (h : v.judge d = .scanned id trace) : Scanned v r d id trace := by
  rcases resolve_cases_of_scanned r h with
    ⟨f, hfault, hf⟩ | ⟨hfault, hargs, hf⟩ | ⟨hfault, hargs, hid, hregistry⟩
  · constructor
    case malformed => simp [RefusedWith, hf, hfault]
    case made => simp [hf, hfault]
    case fault => simp [hf, hfault]
  · constructor
    case malformed => exact iff_of_true ⟨_, hf, rfl⟩ ⟨hfault, hargs⟩
    case made => simp [hf, hargs]
    case fault => simp [hf, hfault]
  · constructor
    case malformed => simp [RefusedWith, hid, hargs]
    case made => exact iff_of_true ⟨hid, hregistry⟩ ⟨hfault, hargs⟩
    case fault => simp [hid, hfault]

end Scan

/-! ### The classification -/

/-- A definition that names a command may be refused for its arguments only. -/
theorem code_of_named {id : Int} (hd : d.isAllBlank = false)
    (hid : v.commands.idByName? (namePart d) = some id) (hcode : RefusedWith v r d code) :
    code = "NO_ARGUMENTS" ∨ code = "MALFORMED_DEFINITION" := by
  by_cases htail : (tailPart d).isAllBlank
  · exact absurd hcode (not_refusedWith_of_plain (judge_of_no_tail hd hid htail))
  · rw [Bool.not_eq_true] at htail
    by_cases hspecs : v.specsFor id = []
    · obtain ⟨reason, hreason, hno⟩ := judge_of_no_specs hd hid htail hspecs
      rw [← (refusedWith_iff_of_refused hreason).1 hcode]
      exact .inl hno
    · exact .inr (code_eq_of_scanned (judge_of_specs hd hid htail hspecs) hcode)

theorem refusedWith_empty_iff : RefusedWith v r d "EMPTY_DEFINITION" ↔ d.isAllBlank := by
  by_cases hd : d.isAllBlank
  · rw [refusedWith_iff_of_refused (judge_of_blank hd)]
    exact iff_of_true rfl hd
  · refine iff_of_false ?_ hd
    intro hcode
    rw [Bool.not_eq_true] at hd
    cases hid : v.commands.idByName? (namePart d) with
    | none =>
      rw [refusedWith_iff_of_refused (judge_of_unknown hd hid)] at hcode
      exact absurd hcode (by decide)
    | some id => exact absurd (code_of_named hd hid hcode) (by decide)

theorem refusedWith_unknown_iff (hd : d.isAllBlank = false) :
    RefusedWith v r d "UNKNOWN_COMMAND" ↔
      ∀ c ∈ v.commands, (namePart d).denotes c.name = false := by
  rw [← Catalog.idByName?_eq_none_iff]
  cases hid : v.commands.idByName? (namePart d) with
  | none =>
    rw [refusedWith_iff_of_refused (judge_of_unknown hd hid)]
    exact iff_of_true rfl rfl
  | some id =>
    refine iff_of_false ?_ (Option.some_ne_none id)
    intro hcode
    exact absurd (code_of_named hd hid hcode) (by decide)

/-- Where names are told apart, the cases of a definition exclude each other and leave none out. -/
theorem classified_of_toldApart (hv : Catalog.ToldApart Command.name v.commands) :
    Classified v r d := by
  constructor
  case empty => exact refusedWith_empty_iff
  case unknown => exact refusedWith_unknown_iff
  case plain =>
    intro c hc
    have hid := hc.idByName? hv
    by_cases htail : (tailPart d).isAllBlank
    · rw [resolve_of_plain (judge_of_no_tail hc.notBlank hid htail)]
      exact iff_of_true ⟨rfl, rfl⟩ htail
    · refine iff_of_false ?_ htail
      rintro ⟨hresult, hregistry⟩
      rw [Bool.not_eq_true] at htail
      by_cases hspecs : v.specsFor c.id = []
      · obtain ⟨reason, hreason, -⟩ := judge_of_no_specs hc.notBlank hid htail hspecs
        rw [resolve, hreason] at hresult
        cases hresult
      · have hscanned := judge_of_specs hc.notBlank hid htail hspecs
        exact registry_ne_of_scanned hscanned hresult hregistry
  case noArguments =>
    intro c hc htail
    have hid := hc.idByName? hv
    by_cases hspecs : v.specsFor c.id = []
    · obtain ⟨reason, hreason, hno⟩ := judge_of_no_specs hc.notBlank hid htail hspecs
      rw [refusedWith_iff_of_refused hreason]
      exact iff_of_true hno hspecs
    · refine iff_of_false ?_ hspecs
      intro hcode
      have hmalformed := code_eq_of_scanned (judge_of_specs hc.notBlank hid htail hspecs) hcode
      exact absurd hmalformed (by decide)
  case scanned =>
    intro c hc htail hspecs
    exact scanned_of_judge (judge_of_specs hc.notBlank (hc.idByName? hv) htail hspecs)

/-! ### The built-in commands, with any groups -/

theorem singleLine_builtin (groups : Groups) :
    { Builtin.vocabulary with groups := groups }.SingleLine := by
  constructor
  · intro c hc
    exact ⟨Builtin.not_mem_name hc (by decide),
      Builtin.not_mem_description hc (by decide) (by decide)⟩
  · show ∀ s ∈ Builtin.specs, '\n' ∉ s.name
    decide

/-- **Resolving follows the classification**, and agrees with help and with the rows of commands on
    which commands take arguments: in every registry, and whatever groups the commands are mapped
    to. -/
theorem resolve_is_classified (groups : Groups) (r : Registry) (d : Text) :
    let v : Vocabulary := { Builtin.vocabulary with groups := groups }
    Classified v r d ∧
      ∀ c ∈ v.commands,
        (v.specsFor c.id = [] ↔ ("Args: none" : Text) ∈ Text.splitOn '\n' (v.help c.id)) ∧
          (v.specsFor c.id = [] ↔
            v.row c = [Numeral.write c.id, c.name, c.description, "-"]) := by
  intro v
  refine ⟨classified_of_toldApart Builtin.toldApart_commands, ?_⟩
  intro c hc
  constructor
  · have hfind : v.commands.find? c.id = some c :=
      Catalog.find?_of_mem Builtin.distinct_commands hc
    rw [Vocabulary.lines_help (singleLine_builtin groups) hfind]
    exact Vocabulary.args_none_mem_helpLines_iff.symm
  · refine (Vocabulary.row_eq_dashed_iff ?_).symm
    show ∀ s ∈ Builtin.specs, s.name ≠ [] ∧ s.name.head? ≠ some '-'
    decide

/-- A command that is mapped to a group without specs takes no arguments, and one that is mapped to
    another's group takes the arguments of that group. -/
theorem resolve_is_classified_under_other_groups :
    let v : Vocabulary := { Builtin.vocabulary with groups := [(302, 999), (200, 302)] }
    let r := empty usualSource usualFirstId
    RefusedWith v r "Exec a" "NO_ARGUMENTS" ∧
      ("Args: none" : Text) ∈ Text.splitOn '\n' (v.help 302) ∧
      (r.resolve v "OpenFile a").result = .ok 15000 := by
  intro v r
  have hexec : v.Names "Exec a" ⟨302, "Exec", "Run External Program"⟩ :=
    ⟨by decide, by decide, by decide +kernel⟩
  have hopen : v.Names "OpenFile a" ⟨200, "OpenFile", "Open File..."⟩ :=
    ⟨by decide, by decide, by decide +kernel⟩
  obtain ⟨hclassified, hhelp⟩ := resolve_is_classified v.groups r "Exec a"
  refine ⟨?_, ?_, ?_⟩
  · exact (hclassified.noArguments _ hexec (by decide)).2 (by decide)
  · exact (hhelp _ hexec.mem).1.1 (by decide)
  · have hopened := (resolve_is_classified v.groups r "OpenFile a").1
    have hscanned := hopened.scanned _ hopen (by decide) (by decide)
    exact (hscanned.made.2 (by decide +kernel)).1

end Registry

end CommandLang
