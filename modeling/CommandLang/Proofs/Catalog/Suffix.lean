/-
  CommandLang/Proofs/Catalog/Suffix.lean
  ======================================
  **A text with `=` and more after it.**

  A name is meant to be found also where `=` follows it directly.  But a name that is followed by
  `=` is looked for in as many characters as it has, while a name that is the whole text is compared
  after folding, whatever the number of characters.  The two differ for a text that has a ligature:
  `ﬁndnext` names a command, and `ﬁndnext=` none.

  Main statement: in the built-in catalog, with `=` after it a text denotes nothing if there is a
  ligature in it, and else what it denotes without (`suffixed_lookup`).
-/
import CommandLang.Proofs.Builtin
import CommandLang.Proofs.Text.Fold
import Mathlib.Data.List.Find

namespace CommandLang

namespace Text

variable {t u name : Text}

/-- Without an `=` in it, a text denotes the names that it is like. -/
theorem denotes_iff_of_not_mem (ht : '=' ∉ t) : t.denotes name ↔ t.fold = name.fold := by
  rw [denotes, Bool.or_eq_true, beq_iff_eq, Bool.and_eq_true, beq_iff_eq]
  constructor
  · rintro (hall | ⟨-, hequals⟩)
    · exact hall
    · exact absurd (List.mem_of_mem_drop (List.mem_of_mem_head? hequals)) ht
  · intro hall
    exact .inl hall

/-- With an `=` after it, a text denotes the names that it is like and as long as. -/
theorem denotes_append_equals_iff (hname : '=' ∉ name) (ht : '=' ∉ t) :
    (t ++ '=' :: u).denotes name ↔ t.fold = name.fold ∧ t.length = name.length := by
  have hfree : ∀ w : Text, w.fold = name.fold → '=' ∉ w := by
    intro w hw hmem
    exact hname ((mem_iff_of_fold_eq (by decide) hw).1 hmem)
  rw [denotes, Bool.or_eq_true, beq_iff_eq, Bool.and_eq_true, beq_iff_eq]
  constructor
  · rintro (hall | ⟨hopen, hequals⟩)
    · exact absurd (by simp) (hfree _ hall)
    · have hword : fold ((t ++ '=' :: u).take name.length) = name.fold := eq_of_beq hopen
      -- the first `=` is neither within the word that was taken nor beyond it
      have hle : name.length ≤ t.length := by
        by_contra hlong
        exact hfree _ hword (mem_take_append_cons (Nat.not_le.1 hlong) u)
      have hge : t.length ≤ name.length := by
        by_contra hshort
        rw [List.drop_append_of_le_length hle,
          List.head?_append_of_ne_nil _ (by simp; omega)] at hequals
        exact ht (List.mem_of_mem_drop (List.mem_of_mem_head? hequals))
      have hlength : t.length = name.length := Nat.le_antisymm hge hle
      rw [← hlength, List.take_left'  rfl] at hword
      exact ⟨hword, hlength⟩
  · rintro ⟨hfold, hlength⟩
    right
    rw [opensWith, ← hlength, List.take_left' rfl, List.drop_left' rfl]
    exact ⟨beq_iff_eq.2 hfold, rfl⟩

end Text

namespace Catalog

variable {key : Command → Text} {commands : Catalog} {t : Text}

/-- A feature is plain if it is within ASCII and has no `=` in it. -/
def Plain (key : Command → Text) (commands : Catalog) : Prop :=
  ∀ c ∈ commands, '=' ∉ key c ∧ ∀ x ∈ key c, x.toNat < 0x80

theorem denotedBy?_append_equals (h : Plain key commands) (ht : '=' ∉ t) (u : Text) :
    denotedBy? key commands (t ++ '=' :: u) =
      if t.any (· ∈ ligatures) then none else denotedBy? key commands t := by
  split
  · rename_i hligature
    obtain ⟨x, hx, hmem⟩ := List.any_eq_true.1 hligature
    rw [denotedBy?_eq_none_iff]
    intro c hc
    obtain ⟨hfree, hascii⟩ := h c hc
    rw [← Bool.not_eq_true, Text.denotes_append_equals_iff hfree ht]
    rintro ⟨hfold, hlength⟩
    exact (Text.length_eq_iff_of_fold_eq hascii hfold).1 hlength x hx (of_decide_eq_true hmem)
  · rename_i hnone
    have hplain : ∀ x ∈ t, x ∉ ligatures := by simpa using hnone
    apply List.find?_congr
    intro c hc
    obtain ⟨hfree, hascii⟩ := h c hc
    rw [Bool.eq_iff_iff, Text.denotes_append_equals_iff hfree ht, Text.denotes_iff_of_not_mem ht]
    constructor
    · rintro ⟨hfold, -⟩
      exact hfold
    · intro hfold
      exact ⟨hfold, (Text.length_eq_iff_of_fold_eq hascii hfold).2 hplain⟩

theorem idByName?_append_equals (h : Plain Command.name commands) (ht : '=' ∉ t) (u : Text) :
    idByName? commands (t ++ '=' :: u) =
      if t.any (· ∈ ligatures) then none else idByName? commands t := by
  rw [idByName?, denotedBy?_append_equals h ht]
  split <;> rfl

theorem idByDescription?_append_equals (h : Plain Command.description commands) (ht : '=' ∉ t)
    (u : Text) :
    idByDescription? commands (t ++ '=' :: u) =
      if t.any (· ∈ ligatures) then none else idByDescription? commands t := by
  rw [idByDescription?, denotedBy?_append_equals h ht]
  split <;> rfl

end Catalog

namespace Builtin

/-- Names and descriptions are within ASCII. -/
theorem plain_commands :
    Catalog.Plain Command.name commands ∧ Catalog.Plain Command.description commands := by
  have hletter : ∀ x : Char, x.isAlpha → x.toNat < 0x80 := by
    intro x hx
    have hcode := Text.toNat_of_isAlpha hx
    omega
  constructor
  · intro c hc
    refine ⟨not_mem_name hc (by decide), ?_⟩
    intro x hx
    exact hletter x ((letters_of_mem_commands hc).1.2 x hx)
  · intro c hc
    refine ⟨not_mem_description hc (by decide) (by decide), ?_⟩
    intro x hx
    rcases (letters_of_mem_commands hc).2 x hx with hx | rfl | rfl | rfl
    · exact hletter x hx
    · decide
    · decide
    · decide

end Builtin

namespace Catalog

/-- **With `=` after it, a text denotes what it denotes without**, by its name and by its
    description, unless there is a ligature in it; then it denotes nothing. -/
theorem suffixed_lookup {t : Text} (ht : '=' ∉ t) (u : Text) :
    idByName? Builtin.commands (t ++ '=' :: u) =
        (if t.any (· ∈ ligatures) then none else idByName? Builtin.commands t) ∧
      idByDescription? Builtin.commands (t ++ '=' :: u) =
        (if t.any (· ∈ ligatures) then none else idByDescription? Builtin.commands t) :=
  ⟨idByName?_append_equals Builtin.plain_commands.1 ht u,
    idByDescription?_append_equals Builtin.plain_commands.2 ht u⟩

theorem suffixed_lookup_of_capitals :
    idByName? Builtin.commands "SCROLLUP=5" = some 240 ∧
      idByDescription? Builtin.commands "ﬁnd next=5" = none := by
  have hscroll : idByName? Builtin.commands "SCROLLUP" = some 240 :=
    Builtin.toldApart_commands.idByName?_of_denotes
      (c := ⟨240, "ScrollUp", "Scroll Up"⟩) (by decide +kernel) (by decide +kernel)
  have hname := (suffixed_lookup (t := "SCROLLUP") (by decide) "5").1
  have hdescription := (suffixed_lookup (t := "ﬁnd next") (by decide) "5").2
  rw [if_neg (by decide), hscroll] at hname
  rw [if_pos (by decide)] at hdescription
  exact ⟨hname, hdescription⟩

/-- A name that is found as it stands is missed with `=` after it: the ligature is one character of
    the text and two of the name. -/
theorem ligature_is_missed_before_equals :
    '=' ∉ ("ﬁndnext" : Text) ∧ idByName? Builtin.commands "ﬁndnext" = some 261 ∧
      idByName? Builtin.commands "ﬁndnext=x" = none := by
  refine ⟨by decide, ?_, ?_⟩
  · exact Builtin.toldApart_commands.idByName?_of_denotes
      (c := ⟨261, "FindNext", "Find Next"⟩) (by decide +kernel) (by decide +kernel)
  · have hnone := idByName?_append_equals Builtin.plain_commands.1
      (t := "ﬁndnext") (by decide) "x"
    rw [if_pos (by decide)] at hnone
    exact hnone

end Catalog

end CommandLang
