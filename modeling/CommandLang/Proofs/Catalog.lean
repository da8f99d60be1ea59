/-
  CommandLang/Proofs/Catalog.lean
  ===============================
  **What is known of the commands of a catalog.**

  No command has an id above the greatest (`le_maxId`).  In a catalog that passes its check no two
  commands share an id, a name or a description (`check_eq_ok_iff`).  So, where names have no `=` in
  them, a text denotes one command at most by its name (`ToldApart.eq_of_denotes`), and is resolved
  to that one (`ToldApart.idByName?_of_denotes`).  The same holds of descriptions.
-/
import CommandLang.Catalog
import CommandLang.Proofs.Text
import Mathlib.Data.List.Basic
import Mathlib.Data.List.Nodup
import Mathlib.Tactic.SplitIfs

namespace CommandLang

/-- A text that denotes a name is the name up to its first `=`, letter case aside. -/
theorem Text.fold_eq_of_denotes {t name : Text} (hname : '=' ∉ name) (h : t.denotes name) :
    (t.cutAt '=').1.fold = name.fold := by
  have hfree : ∀ w : Text, w.fold = name.fold → '=' ∉ w := by
    intro w hw hmem
    exact hname ((Text.mem_iff_of_fold_eq (by decide) hw).1 hmem)
  rw [Text.denotes, Bool.or_eq_true, beq_iff_eq, Bool.and_eq_true, beq_iff_eq] at h
  rcases h with hall | ⟨hopen, hequals⟩
  · rw [Text.cutAt_of_not_mem (hfree t hall)]
    exact hall
  · have hword : Text.fold (t.take name.length) = name.fold := eq_of_beq hopen
    have hsplit : t = t.take name.length ++ '=' :: (t.drop name.length).tail := by
      conv_lhs => rw [← List.take_append_drop name.length t]
      rw [List.cons_head?_tail hequals]
    rw [hsplit, Text.cutAt_append (hfree _ hword)]
    exact hword

namespace Catalog

variable {commands : Catalog} {c d : Command}

/-! ### Ids -/

theorem le_foldl_max (m : Int) (commands : Catalog) :
    m ≤ commands.foldl (fun m c => max m c.id) m ∧
      ∀ c ∈ commands, c.id ≤ commands.foldl (fun m c => max m c.id) m := by
  induction commands generalizing m with
  | nil => simp
  | cons c rest ih =>
    obtain ⟨hm, hrest⟩ := ih (max m c.id)
    simp only [List.foldl_cons]
    refine ⟨by omega, ?_⟩
    intro x hx
    rcases List.mem_cons.1 hx with rfl | hx
    · omega
    · exact hrest x hx

/-- No command has an id above the greatest. -/
theorem le_maxId (h : c ∈ commands) : c.id ≤ commands.maxId := by
  cases commands with
  | nil => cases h
  | cons first rest =>
    obtain ⟨hfirst, hrest⟩ := le_foldl_max first.id rest
    rcases List.mem_cons.1 h with rfl | h
    · exact hfirst
    · exact hrest c h

/-! ### What the check makes sure of -/

/-- Two commands have nothing in common by which they are looked up. -/
def Distinct (c d : Command) : Prop :=
  c.id ≠ d.id ∧ c.name.fold ≠ d.name.fold ∧ c.description.fold ≠ d.description.fold

theorem faultOf?_eq_none_iff {earlier : Catalog} :
    faultOf? earlier c = none ↔ c.id ≠ 0 ∧ ∀ e ∈ earlier, Distinct e c := by
  unfold faultOf? Distinct
  constructor
  · intro h
    split_ifs at h with hid hname hdescription
    simp only [not_or, List.any_eq_true, not_exists, not_and, beq_iff_eq] at hid hname hdescription
    exact ⟨hid.1, fun e he => ⟨hid.2 e he, hname e he, hdescription e he⟩⟩
  · rintro ⟨hzero, hearlier⟩
    rw [if_neg, if_neg, if_neg]
    · simp only [List.any_eq_true, beq_iff_eq, not_exists, not_and]
      exact fun e he => (hearlier e he).2.2
    · simp only [List.any_eq_true, beq_iff_eq, not_exists, not_and]
      exact fun e he => (hearlier e he).2.1
    · simp only [List.any_eq_true, beq_iff_eq, not_or, not_exists, not_and]
      exact ⟨hzero, fun e he => (hearlier e he).1⟩

theorem checkAfter_eq_ok_iff {earlier : Catalog} :
    checkAfter earlier commands = .ok () ↔
      (∀ c ∈ commands, c.id ≠ 0) ∧ (∀ e ∈ earlier, ∀ c ∈ commands, Distinct e c) ∧
        commands.Pairwise Distinct := by
  induction commands generalizing earlier with
  | nil => simp [checkAfter]
  | cons c rest ih =>
    rw [checkAfter]
    cases hf : faultOf? earlier c with
    | some fault =>
      have hnone : ¬ (c.id ≠ 0 ∧ ∀ e ∈ earlier, Distinct e c) := by
        rw [← faultOf?_eq_none_iff, hf]
        exact Option.some_ne_none fault
      constructor
      · intro h
        cases h
      · rintro ⟨hzero, hearlier, -⟩
        exact absurd ⟨hzero c (by simp), fun e he => hearlier e he c (by simp)⟩ hnone
    | none =>
      obtain ⟨hzero, hearlier⟩ := faultOf?_eq_none_iff.1 hf
      rw [ih, List.pairwise_cons]
      simp only [List.forall_mem_cons]
      constructor
      · rintro ⟨hids, ⟨hfirst, hbefore⟩, hrest⟩
        exact ⟨⟨hzero, hids⟩, fun e he => ⟨hearlier e he, hbefore e he⟩, hfirst, hrest⟩
      · rintro ⟨⟨-, hids⟩, hbefore, hfirst, hrest⟩
        exact ⟨hids, ⟨hfirst, fun e he => (hbefore e he).2⟩, hrest⟩

/-- A catalog passes its check if no id is 0 and any two commands are distinct. -/
theorem check_eq_ok_iff :
    check commands = .ok () ↔ (∀ c ∈ commands, c.id ≠ 0) ∧ commands.Pairwise Distinct := by
  rw [check, checkAfter_eq_ok_iff]
  simp

/-! ### Look-up by id -/

/-- A command is found by its id. -/
theorem find?_of_mem (h : commands.Pairwise Distinct) (hc : c ∈ commands) :
    commands.find? c.id = some c := by
  have hnodup : (commands.map Command.id).Nodup :=
    List.pairwise_map.2 (h.imp fun hdistinct => hdistinct.1)
  rw [find?]
  cases hfind : List.find? (·.id == c.id) commands with
  | none => exact absurd (beq_self_eq_true c.id) (List.find?_eq_none.1 hfind c hc)
  | some d =>
    have hid : d.id = c.id := by simpa using List.find?_some hfind
    rw [List.inj_on_of_nodup_map hnodup (List.mem_of_find?_eq_some hfind) hc hid]

/-! ### Look-up by name or description -/

theorem exists_of_idByName? {t : Text} {id : Int} (h : idByName? commands t = some id) :
    ∃ c ∈ commands, c.id = id := by
  obtain ⟨c, hc, hid⟩ := Option.map_eq_some_iff.1 h
  exact ⟨c, List.mem_of_find?_eq_some hc, hid⟩

theorem denotedBy?_eq_none_iff {key : Command → Text} {t : Text} :
    denotedBy? key commands t = none ↔ ∀ c ∈ commands, t.denotes (key c) = false := by
  simp [denotedBy?, List.find?_eq_none]

theorem idByName?_eq_none_iff {t : Text} :
    idByName? commands t = none ↔ ∀ c ∈ commands, t.denotes c.name = false := by
  rw [idByName?, Option.map_eq_none_iff, denotedBy?_eq_none_iff]

theorem idByDescription?_eq_none_iff {t : Text} :
    idByDescription? commands t = none ↔ ∀ c ∈ commands, t.denotes c.description = false := by
  rw [idByDescription?, Option.map_eq_none_iff, denotedBy?_eq_none_iff]

/-- The commands are told apart by a feature: no two are alike in it, and there is no `=` in it,
    with which it may end in a text. -/
structure ToldApart (key : Command → Text) (commands : Catalog) : Prop where
  apart : (commands.map fun c => (key c).fold).Nodup
  free : ∀ c ∈ commands, '=' ∉ key c

theorem toldApart_name (h : commands.Pairwise Distinct) (hfree : ∀ c ∈ commands, '=' ∉ c.name) :
    ToldApart Command.name commands :=
  ⟨List.pairwise_map.2 (h.imp fun hdistinct => hdistinct.2.1), hfree⟩

theorem toldApart_description (h : commands.Pairwise Distinct)
    (hfree : ∀ c ∈ commands, '=' ∉ c.description) : ToldApart Command.description commands :=
  ⟨List.pairwise_map.2 (h.imp fun hdistinct => hdistinct.2.2), hfree⟩

section ToldApart

variable {key : Command → Text} {others : Catalog} {t : Text}

theorem ToldApart.perm (h : ToldApart key commands) (hperm : commands.Perm others) :
    ToldApart key others := by
  constructor
  · exact (hperm.map _).nodup_iff.1 h.apart
  · intro c hc
    exact h.free c (hperm.mem_iff.2 hc)

/-- A text denotes one command at most. -/
theorem ToldApart.eq_of_denotes (h : ToldApart key commands) (hc : c ∈ commands)
    (hd : d ∈ commands) (htc : t.denotes (key c)) (htd : t.denotes (key d)) : c = d := by
  refine List.inj_on_of_nodup_map h.apart hc hd ?_
  rw [← Text.fold_eq_of_denotes (h.free c hc) htc, ← Text.fold_eq_of_denotes (h.free d hd) htd]

/-- The first command that a text denotes is the only one. -/
theorem ToldApart.denotedBy?_eq_some_iff (h : ToldApart key commands) :
    denotedBy? key commands t = some c ↔ c ∈ commands ∧ t.denotes (key c) := by
  constructor
  · intro hfind
    have ht := List.find?_some hfind
    exact ⟨List.mem_of_find?_eq_some hfind, ht⟩
  · rintro ⟨hc, ht⟩
    cases hfind : denotedBy? key commands t with
    | none =>
      rw [denotedBy?_eq_none_iff.1 hfind c hc] at ht
      cases ht
    | some d =>
      have hd := List.find?_some hfind
      rw [h.eq_of_denotes (List.mem_of_find?_eq_some hfind) hc hd ht]

/-- A text that denotes the name of a command is resolved to that command. -/
theorem ToldApart.idByName?_of_denotes (h : ToldApart Command.name commands) (hc : c ∈ commands)
    (ht : t.denotes c.name) : idByName? commands t = some c.id := by
  rw [idByName?, h.denotedBy?_eq_some_iff.2 ⟨hc, ht⟩]
  rfl

end ToldApart

end Catalog

end CommandLang
