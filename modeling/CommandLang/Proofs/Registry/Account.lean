/-
  CommandLang/Proofs/Registry/Account.lean
  ========================================
  **Arguments come to nothing only where colours are rejected.**

  A definition is refused as malformed if its arguments were scanned to their end and none was
  found.  Each stage of the scan has then rejected a colour (`Scan.Course.accounted`), so that it
  does not happen where the command takes no colours (`not_malformed_of_no_color`).  Of the built-in
  commands those that create annotations take colours, and no others.

  Main statement: `no_stage_is_lost`.
-/
import CommandLang.Proofs.Registry.Classification
import CommandLang.Proofs.Scan.Course

namespace CommandLang

/-- The built-in commands that take a colour are those that create annotations. -/
theorem Builtin.mem_annotationCommands_of_color {c : Command} {s : Spec} (hc : c ∈ commands)
    (hs : s ∈ vocabulary.specsFor c.id) (hkind : s.kind = .color) :
    c.id ∈ annotationCommands.map Command.id := by
  have hcolor : ∀ s ∈ specs, s.kind = .color → s.group = annotationGroup := by decide
  have hgroup : ∀ id ∈ commands.map Command.id,
      vocabulary.groupOf id = annotationGroup → id ∈ annotationCommands.map Command.id := by
    decide +kernel
  apply hgroup c.id (List.mem_map_of_mem hc)
  rw [← Vocabulary.group_of_mem_specsFor hs]
  exact hcolor s ((vocabulary.specsFor_sublist c.id).subset hs) hkind

namespace Registry

open Definition (tailPart)
open Scan (Course Accounted scan)

variable {v : Vocabulary} {r : Registry} {d : Text} {c : Command}

/-- A command that takes no colours does not have its arguments refused as malformed. -/
theorem not_malformed_of_no_color (hv : Catalog.ToldApart Command.name v.commands)
    (hc : v.Names d c) (hspecs : ∀ s ∈ v.specsFor c.id, s.kind ≠ .color) :
    ¬ RefusedWith v r d "MALFORMED_DEFINITION" := by
  have hid := hc.idByName? hv
  intro hcode
  by_cases htail : (tailPart d).isAllBlank
  · exact not_refusedWith_of_plain (judge_of_no_tail hc.notBlank hid htail) hcode
  · rw [Bool.not_eq_true] at htail
    by_cases hnone : v.specsFor c.id = []
    · obtain ⟨reason, hreason, hno⟩ := judge_of_no_specs hc.notBlank hid htail hnone
      rw [refusedWith_iff_of_refused hreason, hno] at hcode
      exact absurd hcode (by decide)
    · have hscanned := judge_of_specs hc.notBlank hid htail hnone
      obtain ⟨hfault, hargs⟩ := (scanned_of_judge hscanned).malformed.1 hcode
      obtain ⟨stages, hcourse⟩ := Scan.exists_course_iff.2 hfault
      have hmore : ∃ x ∈ (tailPart d).dropSpaces, x ≠ ' ' := by
        apply Text.exists_ne_space
        rw [Text.isAllBlank_dropSpaces, htail]
      obtain ⟨⟨s, hs, hkind⟩, -⟩ := hcourse.accounted.empty hmore hargs
      exact hspecs s hs hkind

/-- **No stage of a scan is lost**: a scan that does not break off has its stages, each of which
    leaves an argument or the warning of a rejected colour.  So of the built-in commands only those
    that create annotations can have their arguments refused as malformed. -/
theorem no_stage_is_lost (specs : List Spec) (t : Text) :
    ((scan specs t).fault = none → ∃ stages, Course specs t stages) ∧
      (∀ stages, Course specs t stages → Accounted specs t stages) ∧
      ∀ r d c, Builtin.vocabulary.Names d c → c.id ∉ Builtin.annotationCommands.map Command.id →
        ¬ RefusedWith Builtin.vocabulary r d "MALFORMED_DEFINITION" := by
  refine ⟨Scan.exists_course_iff.2, fun stages hcourse => hcourse.accounted, ?_⟩
  intro r d c hc hother
  apply not_malformed_of_no_color Builtin.toldApart_commands hc
  intro s hs hkind
  exact hother (Builtin.mem_annotationCommands_of_color hc.mem hs hkind)

/-- A flag between two rejected colours, and a name of colours where there are none to be given. -/
theorem no_stage_is_lost_among_rejected_colors :
    let specs := Builtin.vocabulary.specsFor 280
    let t : Text := "red openedit #12345  "
    let r := empty usualSource usualFirstId
    (scan specs t).fault = none ∧
      (∃ stages, Course specs t stages ∧ stages.length = 3 ∧
        stages.filterMap Scan.Stage.argument? = [⟨"openedit", .bool true⟩] ∧
        (stages.flatMap Scan.Stage.log).length = 2) ∧
      ¬ RefusedWith Builtin.vocabulary r "exec red" "MALFORMED_DEFINITION" := by
  intro specs t r
  have hscan : scan specs t =
      ⟨[.rejected "color" "red", .argument ⟨"openedit", .bool true⟩,
        .rejected "color" "#12345"], none⟩ := by decide +kernel
  have hfault : (scan specs t).fault = none := by rw [hscan]
  obtain ⟨hexists, haccounted, hrefused⟩ := no_stage_is_lost specs t
  obtain ⟨stages, hcourse⟩ := hexists hfault
  have haccount := haccounted stages hcourse
  refine ⟨hfault, ⟨stages, hcourse, ?_, ?_, ?_⟩, ?_⟩
  · rw [haccount.length, hscan]
    rfl
  · rw [← haccount.arguments, hscan]
    rfl
  · rw [← haccount.log, hscan]
    rfl
  · have hexec : Builtin.vocabulary.Names "exec red" ⟨302, "Exec", "Run External Program"⟩ :=
      ⟨by decide, by decide, by decide +kernel⟩
    exact hrefused r _ _ hexec (by decide)

end Registry

end CommandLang
