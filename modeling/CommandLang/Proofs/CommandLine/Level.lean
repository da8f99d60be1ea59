/-
  CommandLang/Proofs/CommandLine/Level.lean
  =========================================
  **The later edition of the reader always gives a level for the log.**

  A level is there from the start, and of all that is taken in an option with a value alone can set
  it.  The earlier edition lets `--` take it away; in the later edition that is no level and an
  error.  So whatever is read, there is a level (`isSome_level_of_read`).
-/
import CommandLang.Proofs.CommandLine.Operands

namespace CommandLang.CommandLine

variable {p q : Progress} {s : Settings}

/-! ### Taking in a word -/

theorem level_leave (p : Progress) : p.leave.settings.level = p.settings.level := by
  unfold Progress.leave
  split <;> rfl

theorem level_addOperand (p : Progress) (t : Text) :
    (p.addOperand t).settings.level = p.settings.level := by
  unfold Progress.addOperand
  split <;> rfl

theorem level_addTerminator (p : Progress) : p.addTerminator.settings.level = p.settings.level := by
  unfold Progress.addTerminator
  split <;> rfl

theorem level_addFlag (p : Progress) (s : Switch) :
    (p.addFlag s).settings.level = p.settings.level := by
  cases s <;> rfl

/-- A value sets the level to one that there is, or not at all. -/
theorem isSome_level_addValue {s : Switch} {value : Text} (hp : p.settings.level.isSome)
    (h : p.addValue .later s value = .ok q) : q.settings.level.isSome := by
  cases s with
  | describe =>
    cases h
    exact hp
  | logLevel =>
    have hlater : (Edition.later == Edition.earlier && value == "--") = false := rfl
    simp only [Progress.addValue, hlater] at h
    cases hlabel : Log.Level.ofLabel? value with
    | none =>
      rw [hlabel] at h
      cases h
    | some level =>
      rw [hlabel] at h
      cases h
      rfl
  | help | list | plain => cases h

/-! ### Taking in all words -/

theorem isSome_level_of_takeIn {found : List Word} (hp : p.settings.level.isSome)
    (h : takeIn .later p found = .ok (.run s)) : s.level.isSome := by
  fun_induction takeIn .later p found with
  | case1 p =>
    unfold Progress.request at h
    split at h
    · cases h
      exact hp
    · cases h
  | case2 p t rest ih => exact ih (by rwa [level_addOperand]) h
  | case3 p rest ih => exact ih (by rwa [level_addTerminator]) h
  | case4 p t rest ih => exact ih (by rwa [Progress.addExtra, level_leave]) h
  | case5 p s' t rest ih =>
    obtain ⟨q, hq, h⟩ := bind_eq_ok_iff.1 h
    rw [← level_leave] at hp
    exact ih q (isSome_level_addValue hp hq) h
  | case6 p s' t rest =>
    obtain ⟨_, -, h⟩ := bind_eq_ok_iff.1 h
    cases h
  | case7 p rest => cases h
  | case8 p s' hhelp hvalue t rest ih =>
    obtain ⟨q, hq, h⟩ := bind_eq_ok_iff.1 h
    rw [← level_leave] at hp
    exact ih q (isSome_level_addValue hp hq) h
  | case9 p s' rest hhelp hvalue hoperand => cases h
  | case10 p s' rest hhelp hvalue ih => exact ih (by rwa [level_addFlag, level_leave]) h

/-- **Whatever the later edition reads, there is a level.** -/
theorem isSome_level_of_read {words : List Text} (h : read words .later = .ok (.run s)) :
    s.level.isSome := by
  obtain ⟨found, -, h⟩ := bind_eq_ok_iff.1 h
  exact isSome_level_of_takeIn rfl h

end CommandLang.CommandLine
