/-
  CommandLang/Proofs/Scan/Course.lean
  ===================================
  **Every step of a scan counts.**

  A scan goes through its text in stages, each of them a step at the place to which the one before
  has led (`Course`).  It comes to its end exactly if no step fails, and then it yields what its
  stages yield (`exists_course_iff`, `Course.scan_eq`).

  A stage leaves an argument and logs nothing, or it leaves no argument and logs one warning, that a
  text is no colour.  So there are as many stages as arguments and warnings together, and a text that
  is not made of spaces alone comes to nothing only if each stage found a text that is no colour.

  Main statement: `Course.accounted`.
-/
import CommandLang.Proofs.Scan.Yield

namespace CommandLang.Scan

variable {specs : List Spec} {t : Text}

/-! ### The stages of a scan -/

/-- One step of a scan, with the place of the text at which it is made. -/
structure Stage where
  place : Text
  found : Step

namespace Stage

def argument? (stage : Stage) : Option Argument := stage.found.reading.argument?

def log (stage : Stage) : List Log.Entry := stage.found.reading.log

end Stage

/-- The scan of the text goes through these stages to its end. -/
inductive Course (specs : List Spec) : Text → List Stage → Prop
  | done {t : Text} : t.dropSpaces = [] → Course specs t []
  | step {t : Text} {found : Step} {stages : List Stage} : t.dropSpaces ≠ [] →
      Scan.step specs t.dropSpaces = .ok found → Course specs found.rest stages →
      Course specs t (⟨t.dropSpaces, found⟩ :: stages)

variable {stages : List Stage}

/-- A scan that comes to its end yields what its stages yield. -/
theorem Course.scan_eq (h : Course specs t stages) :
    scan specs t = ⟨stages.map fun stage => stage.found.reading, none⟩ := by
  induction h with
  | done ht => exact scan_of_blank ht
  | step ht hs _ ih =>
    rw [scan_of_step ht hs, ih]
    rfl

theorem exists_course_iff :
    (∃ stages, Course specs t stages) ↔ (scan specs t).fault = none := by
  constructor
  · rintro ⟨stages, h⟩
    rw [h.scan_eq]
  · fun_induction scan specs t with
    | case1 t ht =>
      intro _
      exact ⟨[], .done ht⟩
    | case2 t c cs ht f hs =>
      intro h
      cases h
    | case3 t c cs ht found hs ih =>
      intro h
      obtain ⟨stages, hcourse⟩ := ih h
      rw [← ht] at hs
      exact ⟨_, .step (by simp [ht]) hs hcourse⟩

theorem Course.arguments_eq (h : Course specs t stages) :
    (scan specs t).arguments = (stages.filterMap Stage.argument?).reverse := by
  rw [h.scan_eq, Trace.arguments, List.filterMap_map]
  rfl

theorem Course.log_eq (h : Course specs t stages) :
    (scan specs t).log = stages.flatMap Stage.log := by
  rw [h.scan_eq, Trace.log, List.flatMap_map]
  rfl

/-! ### What a stage contributes -/

/-- The stage leaves an argument and logs nothing. -/
def Stage.Yields (stage : Stage) : Prop := ∃ a, stage.argument? = some a ∧ stage.log = []

/-- The stage leaves no argument and logs that a text given for a colour is none. -/
def Stage.Rejects (specs : List Spec) (stage : Stage) : Prop :=
  stage.argument? = none ∧
    ∃ s ∈ specs, s.kind = .color ∧ ∃ raw, Color.read raw = .ok none ∧
      stage.log = [⟨.warning, "protocol.values",
        "[ARGS] invalid color value '" ++ raw ++ "' for `" ++ s.name ++ "`"⟩]

/-- What a step finds is an argument, or a text that is no colour. -/
theorem Stage.yields_or_rejects {place : Text} {found : Step} (h : step specs t = .ok found) :
    Yields ⟨place, found⟩ ∨ Rejects specs ⟨place, found⟩ := by
  obtain ⟨reading, rest⟩ := found
  cases reading with
  | argument a => exact .inl ⟨a, rfl, rfl⟩
  | rejected name raw =>
    obtain ⟨s, hs, hkind, rfl, hraw⟩ := exists_color_of_step h
    exact .inr ⟨rfl, s, hs, hkind, raw, hraw, rfl⟩

theorem Course.yields_or_rejects (h : Course specs t stages) :
    ∀ stage ∈ stages, stage.Yields ∨ stage.Rejects specs := by
  induction h with
  | done _ => simp
  | step _ hs _ ih => exact List.forall_mem_cons.2 ⟨Stage.yields_or_rejects hs, ih⟩

/-- Stages of which each leaves an argument or logs a warning are as many as both together. -/
theorem length_eq_of_yields_or_rejects
    (h : ∀ stage ∈ stages, Stage.Yields stage ∨ stage.Rejects specs) :
    stages.length =
      (stages.filterMap Stage.argument?).length + (stages.flatMap Stage.log).length := by
  induction stages with
  | nil => rfl
  | cons stage stages ih =>
    have hrest := ih fun stage' hmem => h stage' (List.mem_cons_of_mem stage hmem)
    rcases h stage List.mem_cons_self with ⟨a, ha, hlog⟩ | ⟨hnone, s, -, -, raw, -, hlog⟩
    · simp [ha, hlog, hrest]
      omega
    · simp [hnone, hlog, hrest]
      omega

/-! ### The account of a scan -/

/-- What the stages of a scan leave is what the scan yields and logs, each once and in order. -/
structure Accounted (specs : List Spec) (t : Text) (stages : List Stage) : Prop where
  each : ∀ stage ∈ stages, stage.Yields ∨ stage.Rejects specs
  arguments : (scan specs t).arguments.reverse = stages.filterMap Stage.argument?
  log : (scan specs t).log = stages.flatMap Stage.log
  length : stages.length = (scan specs t).arguments.length + (scan specs t).log.length
  /-- A text with more than spaces in it may still come to nothing, if it is given for colours. -/
  empty : (∃ c ∈ t, c ≠ ' ') → (scan specs t).arguments = [] →
    (∃ s ∈ specs, s.kind = .color) ∧ ∀ stage ∈ stages, stage.Rejects specs

/-- A text with more than spaces in it takes a stage. -/
theorem Course.ne_nil (h : Course specs t stages) (ht : ∃ c ∈ t, c ≠ ' ') : stages ≠ [] := by
  obtain ⟨c, hc, hne⟩ := ht
  cases h with
  | done hblank => exact absurd (Text.dropSpaces_eq_nil_iff.1 hblank c hc) hne
  | step _ _ _ => exact List.cons_ne_nil _ _

/-- **No stage is lost**, whatever the specs. -/
theorem Course.accounted (h : Course specs t stages) : Accounted specs t stages := by
  have heach := h.yields_or_rejects
  constructor
  case each => exact heach
  case arguments => rw [h.arguments_eq, List.reverse_reverse]
  case log => exact h.log_eq
  case length =>
    rw [h.arguments_eq, h.log_eq, List.length_reverse]
    exact length_eq_of_yields_or_rejects heach
  case empty =>
    intro ht hnone
    rw [h.arguments_eq, List.reverse_eq_nil_iff, List.filterMap_eq_nil_iff] at hnone
    have hrejects : ∀ stage ∈ stages, stage.Rejects specs := by
      intro stage hmem
      rcases heach stage hmem with ⟨a, ha, -⟩ | hrejects
      · rw [hnone stage hmem] at ha
        cases ha
      · exact hrejects
    refine ⟨?_, hrejects⟩
    obtain ⟨stage, hmem⟩ := List.exists_mem_of_ne_nil stages (h.ne_nil ht)
    obtain ⟨-, s, hs, hkind, -⟩ := hrejects stage hmem
    exact ⟨s, hs, hkind⟩

end CommandLang.Scan
