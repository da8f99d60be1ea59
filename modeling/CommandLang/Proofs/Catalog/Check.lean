/-
  CommandLang/Proofs/Catalog/Check.lean
  =====================================
  **The check of a catalog reports the first command at fault.**

  A command is at fault if its id is 0, or if it has its id, its name or its description from a
  command before it.  The id is looked at first, then the name, then the description, so that a
  command has one fault at most (`AtFault`).  A catalog is checked command by command, each against
  those before it, and the check ends at the first that is at fault (`check_eq_error_iff`).

  Main statement: a catalog passes its check exactly if ids, names and descriptions are each given
  once and no id is 0, and else the fault of the first command at fault is reported, in words that
  give the command's id, name or description (`check_reports_first_fault`).
-/
import CommandLang.Proofs.Catalog

namespace CommandLang.Catalog

variable {commands earlier before rest : Catalog} {c : Command} {f : Fault}

/-! ### Commands at fault -/

/-- The fault of a command that comes after the commands `earlier`. -/
inductive AtFault (earlier : Catalog) (c : Command) : Fault → Prop
  | id : (c.id = 0 ∨ ∃ e ∈ earlier, e.id = c.id) → AtFault earlier c (.invalidId c.id)
  | name : c.id ≠ 0 → (∀ e ∈ earlier, e.id ≠ c.id) → (∃ e ∈ earlier, e.name.fold = c.name.fold) →
      AtFault earlier c (.repeatedName c.name)
  | description : c.id ≠ 0 → (∀ e ∈ earlier, e.id ≠ c.id) →
      (∀ e ∈ earlier, e.name.fold ≠ c.name.fold) →
      (∃ e ∈ earlier, e.description.fold = c.description.fold) →
      AtFault earlier c (.repeatedDescription c.description)

/-- How a fault of a command is put in words: by what the command has from another one. -/
def wording (c : Command) : Fault → Text
  | .invalidId _ => "invalid or duplicate command id: " ++ Numeral.write c.id
  | .repeatedName _ => "duplicate command name: " ++ c.name
  | .repeatedDescription _ => "duplicate command description: " ++ c.description

/-- No command is at fault after those before it. -/
def Faultless (commands : Catalog) : Prop :=
  ∀ earlier c later, commands = earlier ++ c :: later → ∀ f, ¬ AtFault earlier c f

/-- The fault that is reported is that of the command, by the command's own data. -/
theorem AtFault.message_eq (h : AtFault earlier c f) : f.message = wording c f := by
  cases h with
  | id => rfl
  | name => rfl
  | description => rfl

theorem faultOf?_eq_some_iff : faultOf? earlier c = some f ↔ AtFault earlier c f := by
  unfold faultOf?
  simp only [List.any_eq_true, beq_iff_eq]
  constructor
  · intro h
    split_ifs at h with hid hname hdescription
    · cases h
      exact .id hid
    · cases h
      simp only [not_or, not_exists, not_and] at hid
      exact .name hid.1 hid.2 hname
    · cases h
      simp only [not_or, not_exists, not_and] at hid hname
      exact .description hid.1 hid.2 hname hdescription
  · intro h
    cases h with
    | id hid => rw [if_pos hid]
    | name hzero hids hname =>
      rw [if_neg, if_pos hname]
      simpa using ⟨hzero, hids⟩
    | description hzero hids hnames hdescription =>
      rw [if_neg, if_neg, if_pos hdescription]
      · simpa using hnames
      · simpa using ⟨hzero, hids⟩

/-- It counts what commands there are before, not in which order. -/
theorem faultOf?_reverse_eq_some_iff :
    faultOf? earlier.reverse c = some f ↔ AtFault earlier c f := by
  rw [← faultOf?_eq_some_iff]
  simp only [faultOf?, List.any_reverse]

/-! ### The check, command by command -/

/-- Where the commands at the head pass, the others are checked against them. -/
theorem checkAfter_append (h : checkAfter earlier before = .ok ()) (rest : Catalog) :
    checkAfter earlier (before ++ rest) = checkAfter (before.reverse ++ earlier) rest := by
  induction before generalizing earlier with
  | nil => rfl
  | cons c before ih =>
    rw [checkAfter] at h
    rw [List.cons_append, checkAfter]
    cases hf : faultOf? earlier c with
    | some f => simp [hf] at h
    | none =>
      simp only [hf] at h
      rw [List.reverse_cons, List.append_assoc]
      exact ih h

/-- The check fails at some command, and the commands before that one pass. -/
theorem exists_of_checkAfter_eq_error (h : checkAfter earlier commands = .error f) :
    ∃ before c rest, commands = before ++ c :: rest ∧ checkAfter earlier before = .ok () ∧
      faultOf? (before.reverse ++ earlier) c = some f := by
  induction commands generalizing earlier with
  | nil => cases h
  | cons c commands ih =>
    rw [checkAfter] at h
    cases hf : faultOf? earlier c with
    | some g =>
      simp only [hf] at h
      cases h
      exact ⟨[], c, commands, rfl, rfl, hf⟩
    | none =>
      simp only [hf] at h
      obtain ⟨before, d, rest, rfl, hpass, hfault⟩ := ih h
      refine ⟨c :: before, d, rest, rfl, ?_, ?_⟩
      · simp only [checkAfter, hf, hpass]
      · rwa [List.reverse_cons, List.append_assoc]

theorem check_eq_error_iff :
    check commands = .error f ↔
      ∃ before c rest, commands = before ++ c :: rest ∧ check before = .ok () ∧
        AtFault before c f := by
  constructor
  · intro h
    obtain ⟨before, c, rest, rfl, hpass, hfault⟩ := exists_of_checkAfter_eq_error h
    rw [List.append_nil, faultOf?_reverse_eq_some_iff] at hfault
    exact ⟨before, c, rest, rfl, hpass, hfault⟩
  · rintro ⟨before, c, rest, rfl, hpass, hfault⟩
    rw [check, checkAfter_append hpass, List.append_nil, checkAfter,
      faultOf?_reverse_eq_some_iff.2 hfault]

theorem check_eq_ok_iff_faultless : check commands = .ok () ↔ Faultless commands := by
  constructor
  · rintro h earlier c later rfl f hf
    obtain ⟨hzero, hdistinct⟩ := check_eq_ok_iff.1 h
    have hnone : faultOf? earlier c = none := by
      apply faultOf?_eq_none_iff.2
      refine ⟨hzero c (by simp), ?_⟩
      intro e he
      exact (List.pairwise_append.1 hdistinct).2.2 e he c List.mem_cons_self
    rw [faultOf?_eq_some_iff.2 hf] at hnone
    cases hnone
  · intro h
    cases hcheck : check commands with
    | ok u => rfl
    | error f =>
      obtain ⟨before, c, rest, heq, -, hf⟩ := check_eq_error_iff.1 hcheck
      exact absurd hf (h before c rest heq f)

/-- Commands are distinct in pairs if they are so in each of the three features. -/
theorem pairwise_distinct_iff :
    commands.Pairwise Distinct ↔
      (commands.map Command.id).Nodup ∧ (commands.map fun c => c.name.fold).Nodup ∧
        (commands.map fun c => c.description.fold).Nodup := by
  simp only [List.Nodup, List.pairwise_map, ← List.pairwise_and_iff]
  rfl

/-- **The check passes exactly the catalogs in which nothing is given twice**, and reports of any
    other the first command at fault. -/
theorem check_reports_first_fault (commands : Catalog) :
    (check commands = .ok () ↔
      (∀ c ∈ commands, c.id ≠ 0) ∧ (commands.map Command.id).Nodup ∧
        (commands.map fun c => c.name.fold).Nodup ∧
          (commands.map fun c => c.description.fold).Nodup) ∧
      ∀ f, check commands = .error f ↔
        ∃ before c rest, commands = before ++ c :: rest ∧ Faultless before ∧ AtFault before c f ∧
          f.message = wording c f := by
  constructor
  · rw [check_eq_ok_iff, pairwise_distinct_iff]
  · intro f
    rw [check_eq_error_iff]
    simp only [check_eq_ok_iff_faultless]
    constructor
    · rintro ⟨before, c, rest, heq, hpass, hfault⟩
      exact ⟨before, c, rest, heq, hpass, hfault, hfault.message_eq⟩
    · rintro ⟨before, c, rest, heq, hpass, hfault, -⟩
      exact ⟨before, c, rest, heq, hpass, hfault⟩

/-- The second command has a description again, so that the id of the third is not looked at. -/
example : check [⟨1, "Open", "Show"⟩, ⟨2, "Close", "SHOW"⟩, ⟨1, "Quit", "Hide"⟩] =
    .error (.repeatedDescription "SHOW") := by rfl

end CommandLang.Catalog
