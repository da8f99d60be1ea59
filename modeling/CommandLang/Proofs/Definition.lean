/-
  CommandLang/Proofs/Definition.lean
  ==================================
  **How a definition is parted and classified.**

  A word without blanks, a space and a text that is not blank are parted into the word and the text
  (`split_append_space`).  The text is scanned if the word names a command that has specs
  (`judge_eq_scanned_iff`).

  What is made of a definition follows from two parts of it: what stands in the place of a name
  (`namePart`) and what stands behind it (`tailPart`).  There is one statement for each case, from
  `judge_of_blank` to `judge_of_specs`.
-/
import CommandLang.Definition
import CommandLang.Proofs.Text

namespace CommandLang

namespace Definition

/-- What stands in the place of a name: behind the leading blanks and before the first space that
    follows, without the blanks at its end. -/
def namePart (d : Text) : Text := (d.trimLeft.cutAt ' ').1.trimRight

/-- What stands behind that space. -/
def tailPart (d : Text) : Text := (d.trimLeft.cutAt ' ').2

theorem split_of_isAllBlank {d : Text} (h : (tailPart d).isAllBlank) :
    split d = ⟨namePart d, none⟩ := by
  have hdrop : (tailPart d).dropSpaces.isAllBlank = true := by rw [Text.isAllBlank_dropSpaces, h]
  exact congrArg (Parts.mk (namePart d)) (if_pos hdrop)

theorem split_of_not_isAllBlank {d : Text} (h : (tailPart d).isAllBlank = false) :
    split d = ⟨namePart d, some (tailPart d).dropSpaces⟩ := by
  have hdrop : ¬ (tailPart d).dropSpaces.isAllBlank = true := by
    rw [Text.isAllBlank_dropSpaces, h]
    exact Bool.false_ne_true
  exact congrArg (Parts.mk (namePart d)) (if_neg hdrop)

/-- Only a definition that is blank has no name. -/
theorem namePart_eq_nil_iff {d : Text} : namePart d = [] ↔ d.isAllBlank := by
  constructor
  · intro h
    by_contra hd
    rw [Bool.not_eq_true] at hd
    obtain ⟨c, rest, hleft, hc⟩ := Text.exists_cons_of_trimLeft hd
    -- what is before the space begins with a character that is not blank
    have hne : c ≠ ' ' := by
      rintro rfl
      cases hc
    have hmem : c ∈ (d.trimLeft.cutAt ' ').1 := by simp [hleft, Text.cutAt, hne]
    have hall := Text.isAllBlank_of_trimRight h
    have hblank := List.all_eq_true.1 hall c hmem
    rw [hc] at hblank
    cases hblank
  · intro h
    rw [namePart, Text.trimLeft_of_isAllBlank h]
    rfl

/-- What stands in the place of a name, and behind it, in a text that begins with a word, leading
    blanks aside. -/
theorem parts_append {before word : Text} (hword : word ≠ []) (hspace : ' ' ∉ word)
    (hhead : ∀ c ∈ word.head?, isBlank c = false) (hbefore : before.isAllBlank) (after : Text) :
    namePart (before ++ (word ++ after)) = (word ++ (after.cutAt ' ').1).trimRight ∧
      tailPart (before ++ (word ++ after)) = (after.cutAt ' ').2 := by
  have hleft : (before ++ (word ++ after)).trimLeft = word ++ after := by
    apply Text.trimLeft_append (List.all_eq_true.1 hbefore)
    obtain ⟨c, rest, rfl⟩ := List.exists_cons_of_ne_nil hword
    exact hhead
  rw [namePart, tailPart, hleft, Text.cutAt_append_of_not_mem hspace]
  exact ⟨rfl, rfl⟩

/-- A word without blanks at its ends, a space and a text that is not blank are the parts. -/
theorem split_append {before name t : Text} (hne : name ≠ []) (hspace : ' ' ∉ name)
    (hhead : ∀ c ∈ name.head?, isBlank c = false) (hlast : ∀ c ∈ name.getLast?, isBlank c = false)
    (hbefore : before.isAllBlank) (ht : t.isAllBlank = false) :
    split (before ++ (name ++ ' ' :: t)) = ⟨name, some t.dropSpaces⟩ := by
  obtain ⟨hfirst, hrest⟩ := parts_append hne hspace hhead hbefore (' ' :: t)
  have hcut : Text.cutAt ' ' (' ' :: t) = ([], t) := rfl
  rw [hcut, Text.trimRight_append (by simp) hlast] at hfirst
  rw [hcut] at hrest
  rw [split_of_not_isAllBlank (by rw [hrest, ht]), hfirst, hrest]

theorem split_append_space {name t : Text} (hne : name ≠ [])
    (hname : ∀ c ∈ name, isBlank c = false) (ht : t.isAllBlank = false) :
    split (name ++ ' ' :: t) = ⟨name, some t.dropSpaces⟩ := by
  have hspace : ' ' ∉ name := by
    intro hmem
    exact absurd (hname ' ' hmem) (by decide)
  have hhead : ∀ c ∈ name.head?, isBlank c = false :=
    fun c hc => hname c (List.mem_of_mem_head? hc)
  have hlast : ∀ c ∈ name.getLast?, isBlank c = false :=
    fun c hc => hname c (List.mem_of_getLast? hc)
  exact @split_append [] name t hne hspace hhead hlast rfl ht

theorem tail_of_split {d name tail : Text} (h : split d = ⟨name, some tail⟩) :
    (tailPart d).dropSpaces = tail ∧ tail.isAllBlank = false := by
  by_cases hblank : (tailPart d).isAllBlank
  · rw [split_of_isAllBlank hblank] at h
    cases h
  · rw [Bool.not_eq_true] at hblank
    rw [split_of_not_isAllBlank hblank] at h
    cases h
    rw [Text.isAllBlank_dropSpaces]
    exact ⟨rfl, hblank⟩

theorem tail_suffix {d name tail : Text} (h : split d = ⟨name, some tail⟩) : tail <:+ d := by
  rw [← (tail_of_split h).1]
  exact ((Text.dropSpaces_suffix _).trans (Text.cutAt_snd_suffix ' ' _)).trans
    (Text.trimLeft_suffix d)

end Definition

variable {v : Vocabulary} {definition : Text} {command : Int}

/-! ### The verdicts of a definition with arguments and without -/

theorem specsFor_eq_ofGroup (h : v.groups.accepts command) :
    v.specsFor command = Spec.ofGroup (v.groupOf command) v.specs := if_pos h

theorem accepts_of_specsFor_ne_nil (h : v.specsFor command ≠ []) :
    v.groups.accepts command = true := by
  by_contra hnot
  exact h (if_neg hnot)

/-- A scan takes place if the name is a command's, the command has specs, and there are arguments;
    they are scanned with these specs. -/
theorem judge_eq_scanned_iff {trace : Scan.Trace} :
    v.judge definition = .scanned command trace ↔
      ∃ name tail, Definition.split definition = ⟨name, some tail⟩ ∧ name ≠ [] ∧
        v.commands.idByName? name = some command ∧ v.specsFor command ≠ [] ∧
          trace = Scan.scan (v.specsFor command) tail := by
  constructor
  · intro h
    rw [Vocabulary.judge] at h
    generalize hsplit : Definition.split definition = parts at h
    obtain ⟨name, tail?⟩ := parts
    simp only at h
    split at h
    · cases h
    · rename_i hname
      split at h
      · cases h
      · rename_i id hid
        split at h
        · cases h
        · rename_i tail
          split at h
          · rename_i haccepts
            split at h
            · cases h
            · rename_i hspecs
              cases h
              rw [← specsFor_eq_ofGroup haccepts] at hspecs ⊢
              exact ⟨name, tail, rfl, by simpa using hname, hid, hspecs, rfl⟩
          · cases h
  · rintro ⟨name, tail, hsplit, hname, hid, hspecs, rfl⟩
    have hempty : name.isEmpty = false := by simp [hname]
    have haccepts := accepts_of_specsFor_ne_nil hspecs
    rw [specsFor_eq_ofGroup haccepts] at hspecs ⊢
    simp only [Vocabulary.judge, hsplit, hempty, hid, haccepts, Bool.false_eq_true, if_false,
      if_true]

/-! ### The verdict, case by case -/

section Cases

open Definition

variable {d : Text} {id : Int}

theorem judge_of_blank (hd : d.isAllBlank) : v.judge d = .refused .empty := by
  have hname : (split d).name.isEmpty := List.isEmpty_iff.2 (namePart_eq_nil_iff.2 hd)
  rw [Vocabulary.judge]
  exact if_pos hname

theorem isEmpty_namePart (hd : d.isAllBlank = false) : (namePart d).isEmpty = false := by
  rw [List.isEmpty_eq_false_iff, ne_eq, namePart_eq_nil_iff, hd]
  exact Bool.false_ne_true

theorem judge_of_unknown (hd : d.isAllBlank = false)
    (hid : v.commands.idByName? (namePart d) = none) : v.judge d = .refused .unknownCommand := by
  have hname : (split d).name.isEmpty = false := isEmpty_namePart hd
  have hid' : v.commands.idByName? (split d).name = none := hid
  simp only [Vocabulary.judge, hname, hid', Bool.false_eq_true, if_false]

theorem judge_of_no_tail (hd : d.isAllBlank = false)
    (hid : v.commands.idByName? (namePart d) = some id) (htail : (tailPart d).isAllBlank) :
    v.judge d = .plain id := by
  simp only [Vocabulary.judge, split_of_isAllBlank htail, isEmpty_namePart hd, hid,
    Bool.false_eq_true, if_false]

/-- A command without specs takes no arguments, whether or not it is mapped to a group. -/
theorem judge_of_no_specs (hd : d.isAllBlank = false)
    (hid : v.commands.idByName? (namePart d) = some id) (htail : (tailPart d).isAllBlank = false)
    (hspecs : v.specsFor id = []) :
    ∃ reason, v.judge d = .refused reason ∧ reason.code = "NO_ARGUMENTS" := by
  by_cases haccepts : v.groups.accepts id
  · rw [specsFor_eq_ofGroup haccepts] at hspecs
    refine ⟨.noSpecs, ?_, rfl⟩
    simp only [Vocabulary.judge, split_of_not_isAllBlank htail, isEmpty_namePart hd, hid, haccepts,
      hspecs, Bool.false_eq_true, if_false, if_true]
  · refine ⟨.noArguments, ?_, rfl⟩
    simp only [Vocabulary.judge, split_of_not_isAllBlank htail, isEmpty_namePart hd, hid, haccepts,
      Bool.false_eq_true, if_false]

theorem judge_of_specs (hd : d.isAllBlank = false)
    (hid : v.commands.idByName? (namePart d) = some id) (htail : (tailPart d).isAllBlank = false)
    (hspecs : v.specsFor id ≠ []) :
    v.judge d = .scanned id (Scan.scan (v.specsFor id) (tailPart d).dropSpaces) := by
  have hname : namePart d ≠ [] := List.isEmpty_eq_false_iff.1 (isEmpty_namePart hd)
  exact judge_eq_scanned_iff.2
    ⟨namePart d, _, split_of_not_isAllBlank htail, hname, hid, hspecs, rfl⟩

end Cases

/-- A definition stands for a command only if its name is that command's. -/
theorem idByName?_of_judge_eq_plain (h : v.judge definition = .plain command) :
    v.commands.idByName? (Definition.split definition).name = some command := by
  rw [Vocabulary.judge] at h
  split at h
  · cases h
  · split at h
    · cases h
    · rename_i id hid
      split at h
      · cases h
        exact hid
      · split at h
        · split at h <;> cases h
        · cases h

end CommandLang
