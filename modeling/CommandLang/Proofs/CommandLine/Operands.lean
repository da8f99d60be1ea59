/-
  CommandLang/Proofs/CommandLine/Operands.lean
  ============================================
  **Definitions are words of the command line.**

  Words are classified one by one, so the operands are some of the words, as they were given and in
  the same order (`operands_sublist`).  Of all that is taken in, operands alone become definitions,
  and each is put behind those before it (`definitions_of_takeIn`).  So the definitions are some of
  the words, in the same order (`definitions_sublist`).
-/
import CommandLang.Proofs.CommandLine.Options

namespace CommandLang.CommandLine

variable {edition : Edition}

/-- The word itself if it is an operand. -/
def Word.operand? : Word → Option Text
  | operand t => some t
  | _ => none

/-! ### Classified words -/

theorem operand?_of_classifyDashed {word : Text} {found : Word}
    (h : classifyDashed edition word = .ok found) :
    found.operand? = none ∨ found = .operand word := by
  unfold classifyDashed at h
  split at h
  · cases h
    exact .inl rfl
  · cases h
    exact .inl rfl
  · split at h
    · cases h
      exact .inl rfl
    · split at h
      · cases h
        exact .inr rfl
      · cases h
        exact .inl rfl
    · cases h

/-- The operands are some of the words, in the same order. -/
theorem operands_sublist {words : List Text} {found : List Word}
    (h : classify edition words = .ok found) : (found.filterMap Word.operand?).Sublist words := by
  fun_induction classify edition words generalizing found with
  | case1 =>
    cases h
    exact List.Sublist.refl []
  | case2 rest =>
    cases h
    have hrest : (rest.map Word.operand).filterMap Word.operand? = rest := by
      simp [List.filterMap_map, Function.comp_def, Word.operand?]
    rw [List.filterMap_cons, hrest]
    exact List.sublist_cons_self _ rest
  | case3 rest c cs hword ih =>
    obtain ⟨first, hfirst, h⟩ := bind_eq_ok_iff.1 h
    obtain ⟨others, hothers, heq⟩ := bind_eq_ok_iff.1 h
    cases heq
    rcases operand?_of_classifyDashed hfirst with hnone | rfl
    · rw [List.filterMap_cons, hnone]
      exact (ih hothers).cons _
    · exact (ih hothers).cons_cons _
  | case4 word rest _ _ ih =>
    obtain ⟨others, hothers, heq⟩ := bind_eq_ok_iff.1 h
    cases heq
    exact (ih hothers).cons_cons word

/-! ### Taking in -/

variable {p : Progress} {s : Settings}

theorem definitions_leave (p : Progress) :
    p.leave.settings.definitions = p.settings.definitions := by
  unfold Progress.leave
  split <;> rfl

theorem definitions_addTerminator (p : Progress) :
    p.addTerminator.settings.definitions = p.settings.definitions := by
  unfold Progress.addTerminator
  split <;> rfl

theorem definitions_addFlag (p : Progress) (s : Switch) :
    (p.addFlag s).settings.definitions = p.settings.definitions := by
  cases s <;> rfl

theorem definitions_addValue {q : Progress} {s : Switch} {value : Text}
    (h : p.addValue edition s value = .ok q) : q.settings.definitions = p.settings.definitions := by
  cases s with
  | describe =>
    cases h
    rfl
  | logLevel =>
    simp only [Progress.addValue] at h
    split at h
    · cases h
    · cases h
      rfl
  | help | list | plain => cases h

theorem addOperand_sublist (p : Progress) (t : Text) :
    (p.addOperand t).settings.definitions.Sublist (p.settings.definitions ++ [t]) := by
  unfold Progress.addOperand
  split
  · exact List.sublist_append_left _ _
  · exact List.Sublist.refl _

/-- A definition is one of the operands that were taken in. -/
theorem definitions_of_takeIn {found : List Word} (h : takeIn edition p found = .ok (.run s)) :
    s.definitions.Sublist (p.settings.definitions ++ found.filterMap Word.operand?) := by
  fun_induction takeIn edition p found with
  | case1 p =>
    unfold Progress.request at h
    split at h
    · cases h
      simp
    · cases h
  | case2 p t rest ih =>
    refine (ih h).trans ?_
    have hmore := (addOperand_sublist p t).append_right (rest.filterMap Word.operand?)
    rwa [List.append_assoc] at hmore
  | case3 p rest ih =>
    rw [← definitions_addTerminator]
    exact ih h
  | case4 p t rest ih =>
    rw [← definitions_leave]
    exact ih h
  | case5 p s' t rest ih =>
    obtain ⟨q, hq, h⟩ := bind_eq_ok_iff.1 h
    rw [← definitions_leave, ← definitions_addValue hq]
    exact ih q h
  | case6 p s' t rest =>
    obtain ⟨_, -, h⟩ := bind_eq_ok_iff.1 h
    cases h
  | case7 p rest => cases h
  | case8 p s' hhelp hvalue t rest ih =>
    obtain ⟨q, hq, h⟩ := bind_eq_ok_iff.1 h
    refine (ih q h).trans ?_
    rw [definitions_addValue hq, definitions_leave]
    exact (List.sublist_cons_self t _).append_left _
  | case9 p s' rest hhelp hvalue hoperand => cases h
  | case10 p s' rest hhelp hvalue ih =>
    rw [← definitions_leave, ← definitions_addFlag]
    exact ih h

/-- **The definitions are words of the command line**, as they were given and in the same order. -/
theorem definitions_sublist {words : List Text} (h : read words edition = .ok (.run s)) :
    s.definitions.Sublist words := by
  obtain ⟨found, hfound, h⟩ := bind_eq_ok_iff.1 h
  exact (definitions_of_takeIn h).trans (operands_sublist hfound)

end CommandLang.CommandLine
