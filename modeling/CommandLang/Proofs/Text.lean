/-
  CommandLang/Proofs/Text.lean
  ============================
  **Cutting, trimming and comparing.**
-/
import CommandLang.Text.Blank
import CommandLang.Text.Fold
import Mathlib.Data.List.TakeWhile

namespace CommandLang.Text

/-! ### Evaluation -/

section Evaluation

variable {p : Char → Prop} [DecidablePred p]

-- there is an instance that tries all characters, so these come first
instance (priority := 2000) (t : Text) : Decidable (∀ c ∈ t, p c) := List.decidableBAll p t

instance (priority := 2000) (o : Option Char) : Decidable (∀ c ∈ o, p c) :=
  Option.decidableForallMem o

end Evaluation

/-! ### Cutting -/

theorem forall_ne_of_not_mem {c : Char} {t : Text} (h : c ∉ t) :
    ∀ x ∈ t, decide (x ≠ c) = true := by
  intro x hx
  simp only [decide_eq_true_eq]
  rintro rfl
  exact h hx

theorem cutAt_of_not_mem {c : Char} {t : Text} (h : c ∉ t) : cutAt c t = (t, []) := by
  have hall := forall_ne_of_not_mem h
  rw [cutAt, List.takeWhile_eq_self_iff.2 hall, List.dropWhile_eq_nil_iff.2 hall]
  rfl

theorem not_mem_cutAt (c : Char) (t : Text) : c ∉ (cutAt c t).1 := by
  intro hmem
  have hne := List.mem_takeWhile_imp hmem
  simp at hne

/-- What comes first and has no such character in it is not cut. -/
theorem cutAt_append_of_not_mem {c : Char} {t : Text} (h : c ∉ t) (u : Text) :
    cutAt c (t ++ u) = (t ++ (cutAt c u).1, (cutAt c u).2) := by
  have hall := forall_ne_of_not_mem h
  rw [cutAt, List.takeWhile_append_of_pos hall, List.dropWhile_append_of_pos hall]
  rfl

/-- A text is cut at the first occurrence of the character. -/
theorem cutAt_append {c : Char} {t : Text} (h : c ∉ t) (u : Text) :
    cutAt c (t ++ c :: u) = (t, u) := by
  rw [cutAt_append_of_not_mem h]
  simp [cutAt]

/-- A cut at a space leaves what comes after the space, if anything comes. -/
theorem cutAt_space_append {t tail : Text} (h : ' ' ∉ t)
    (htail : tail = [] ∨ ∃ u, tail = ' ' :: u) : cutAt ' ' (t ++ tail) = (t, tail.drop 1) := by
  rcases htail with rfl | ⟨u, rfl⟩
  · rw [List.append_nil, cutAt_of_not_mem h]
    rfl
  · exact cutAt_append h u

/-! ### Splitting -/

theorem splitOn_of_not_mem {c : Char} {t : Text} (h : c ∉ t) : splitOn c t = [t] := by
  induction t with
  | nil => rfl
  | cons x t ih =>
    rw [List.mem_cons, not_or] at h
    rw [splitOn, if_neg (Ne.symm h.1), ih h.2]

theorem splitOn_append {c : Char} {piece : Text} (h : c ∉ piece) (t : Text) :
    splitOn c (piece ++ c :: t) = piece :: splitOn c t := by
  induction piece with
  | nil => rw [List.nil_append, splitOn, if_pos rfl]
  | cons x piece ih =>
    rw [List.mem_cons, not_or] at h
    rw [List.cons_append, splitOn, if_neg (Ne.symm h.1), ih h.2]

theorem join_singleton (sep piece : Text) : join sep [piece] = piece := by simp [join]

theorem join_cons_cons (sep piece next : Text) (pieces : List Text) :
    join sep (piece :: next :: pieces) = piece ++ sep ++ join sep (next :: pieces) := by
  simp [join, List.intercalate, List.intersperse]

/-- Pieces that were joined are found again, if none has the character between them. -/
theorem splitOn_join {c : Char} {pieces : List Text} (hne : pieces ≠ [])
    (h : ∀ piece ∈ pieces, c ∉ piece) : splitOn c (join [c] pieces) = pieces := by
  induction pieces with
  | nil => exact absurd rfl hne
  | cons piece pieces ih =>
    obtain ⟨hpiece, hpieces⟩ := List.forall_mem_cons.1 h
    cases pieces with
    | nil => rw [join_singleton, splitOn_of_not_mem hpiece]
    | cons next pieces =>
      rw [join_cons_cons, List.append_assoc, List.singleton_append, splitOn_append hpiece,
        ih (List.cons_ne_nil next pieces) hpieces]

theorem head?_join_cons (sep : Text) {piece : Text} (h : piece ≠ []) (pieces : List Text) :
    (join sep (piece :: pieces)).head? = piece.head? := by
  obtain ⟨c, rest, rfl⟩ := List.exists_cons_of_ne_nil h
  cases pieces with
  | nil => rw [join_singleton]
  | cons next pieces =>
    rw [join_cons_cons]
    rfl

theorem mem_join {sep : Text} {pieces : List Text} {x : Char} (h : x ∈ join sep pieces) :
    x ∈ sep ∨ ∃ piece ∈ pieces, x ∈ piece := by
  induction pieces with
  | nil => cases h
  | cons piece pieces ih =>
    cases pieces with
    | nil =>
      rw [join_singleton] at h
      exact .inr ⟨piece, List.mem_cons_self, h⟩
    | cons next pieces =>
      rw [join_cons_cons, List.mem_append, List.mem_append] at h
      rcases h with (h | h) | h
      · exact .inr ⟨piece, List.mem_cons_self, h⟩
      · exact .inl h
      · rcases ih h with hsep | ⟨p, hp, hx⟩
        · exact .inl hsep
        · exact .inr ⟨p, List.mem_cons_of_mem _ hp, hx⟩

/-- The pieces are made of the other characters of the text. -/
theorem mem_of_mem_splitOn {c x : Char} {t piece : Text} (hpiece : piece ∈ splitOn c t)
    (hx : x ∈ piece) : x ∈ t ∧ x ≠ c := by
  induction t generalizing piece with
  | nil =>
    obtain rfl := List.mem_singleton.1 hpiece
    cases hx
  | cons y t ih =>
    -- a piece without its first character is a piece of what follows, or empty
    have hrest : ∀ piece ∈ splitOn c t, x ∈ piece → x ∈ y :: t ∧ x ≠ c := by
      intro piece hpiece hx
      obtain ⟨hmem, hne⟩ := ih hpiece hx
      exact ⟨List.mem_cons_of_mem y hmem, hne⟩
    unfold splitOn at hpiece
    split at hpiece
    · rcases List.mem_cons.1 hpiece with rfl | hpiece
      · cases hx
      · exact hrest piece hpiece hx
    · rename_i hy
      have hfirst : x = y → x ∈ y :: t ∧ x ≠ c := by
        rintro rfl
        exact ⟨List.mem_cons_self, hy⟩
      split at hpiece
      · obtain rfl := List.mem_singleton.1 hpiece
        exact hfirst (List.mem_singleton.1 hx)
      · rename_i first pieces heq
        rcases List.mem_cons.1 hpiece with rfl | hpiece
        · rcases List.mem_cons.1 hx with hx | hx
          · exact hfirst hx
          · exact hrest first (by simp [heq]) hx
        · exact hrest piece (by simp [heq, hpiece]) hx

/-! ### Leading spaces -/

theorem dropSpaces_of_head?_ne {t : Text} (h : t.head? ≠ some ' ') : t.dropSpaces = t := by
  cases t with
  | nil => rfl
  | cons c t =>
    refine dropSpaces_cons_of_ne ?_ t
    rintro rfl
    exact h rfl

/-- A word that has no space in it stands at the head of a text without its leading spaces. -/
theorem dropSpaces_append_of_not_mem {word : Text} (hne : word ≠ []) (h : ' ' ∉ word) (t : Text) :
    (word ++ t).dropSpaces = word ++ t := by
  obtain ⟨c, rest, rfl⟩ := List.exists_cons_of_ne_nil hne
  apply dropSpaces_cons_of_ne
  rintro rfl
  exact h List.mem_cons_self

theorem dropSpaces_replicate_append (n : Nat) (t : Text) :
    dropSpaces (List.replicate n ' ' ++ t) = t.dropSpaces := by
  induction n with
  | zero => rfl
  | succ n ih => exact ih

theorem dropSpaces_dropSpaces (t : Text) : t.dropSpaces.dropSpaces = t.dropSpaces := by
  refine dropSpaces_of_head?_ne ?_
  intro h
  obtain ⟨r, hr⟩ := List.head?_eq_some_iff.1 h
  exact dropSpaces_ne_space_cons t r hr

theorem dropSpaces_eq_nil_iff {t : Text} : t.dropSpaces = [] ↔ ∀ c ∈ t, c = ' ' := by
  rw [dropSpaces, List.dropWhile_eq_nil_iff]
  simp

theorem exists_ne_space {t : Text} (h : t.isAllBlank = false) : ∃ c ∈ t, c ≠ ' ' := by
  obtain ⟨c, hc, hblank⟩ := List.all_eq_false.1 h
  refine ⟨c, hc, ?_⟩
  rintro rfl
  exact hblank (by decide)

/-- A space is blank, so the leading ones do not matter to a text of nothing but blanks. -/
theorem isAllBlank_dropSpaces (t : Text) : t.dropSpaces.isAllBlank = t.isAllBlank := by
  induction t with
  | nil => rfl
  | cons c t ih =>
    by_cases hc : c = ' '
    · subst hc
      rw [dropSpaces_space, ih]
      rfl
    · rw [dropSpaces_cons_of_ne hc]

/-! ### Texts that are alike -/

/-- Texts that are alike have the same characters below the letters. -/
theorem mem_iff_of_fold_eq {x : Char} (hx : x.toNat < 65) {t u : Text} (h : t.fold = u.fold) :
    x ∈ t ↔ x ∈ u := by
  rw [← mem_fold_iff_of_lt hx t, ← mem_fold_iff_of_lt hx u, h]

/-- What is cut off a text beyond its first part begins with the next character. -/
theorem mem_take_append_cons {c : Char} {t : Text} {n : Nat} (h : t.length < n) (u : Text) :
    c ∈ (t ++ c :: u).take n := by
  obtain ⟨k, hk⟩ := Nat.exists_eq_add_of_lt h
  rw [hk, Nat.add_assoc, List.take_length_add_append]
  simp

/-! ### Pieces between spaces -/

/-- The text is made of the pieces, in order, with one or more spaces between any two of them and
    any number of spaces at either end. -/
inductive Spaced : List Text → Text → Prop
  | nil : Spaced [] []
  | last (piece : Text) : Spaced [piece] piece
  | piece {pieces : List Text} {t : Text} (piece : Text) (rest : Spaced pieces t) :
      Spaced (piece :: pieces) (piece ++ ' ' :: t)
  | space {pieces : List Text} {t : Text} (rest : Spaced pieces t) : Spaced pieces (' ' :: t)

/-! ### Trimming -/

theorem toNat_of_isAlpha {c : Char} (h : c.isAlpha) :
    (65 ≤ c.toNat ∧ c.toNat ≤ 90) ∨ (97 ≤ c.toNat ∧ c.toNat ≤ 122) := by
  rcases Bool.or_eq_true_iff.1 h with hcapital | hsmall
  · exact .inl (of_decide_eq_true hcapital)
  · obtain ⟨hlow, hhigh⟩ := Bool.and_eq_true_iff.1 hsmall
    exact .inr ⟨of_decide_eq_true hlow, of_decide_eq_true hhigh⟩

theorem isBlank_of_isAlpha {c : Char} (h : c.isAlpha) : isBlank c = false := by
  have hcode := toNat_of_isAlpha h
  simp only [isBlank, isBlankCode, Bool.or_eq_false_iff, Bool.and_eq_false_iff,
    decide_eq_false_iff_not, beq_eq_false_iff_ne]
  omega

theorem trimLeft_of_isAllBlank {t : Text} (h : t.isAllBlank) : t.trimLeft = [] :=
  List.dropWhile_eq_nil_iff.2 (List.all_eq_true.1 h)

/-- Trimming leaves something of a text that is not blank, and that begins with no blank. -/
theorem exists_cons_of_trimLeft {t : Text} (h : t.isAllBlank = false) :
    ∃ c rest, t.trimLeft = c :: rest ∧ isBlank c = false := by
  induction t with
  | nil => cases h
  | cons c t ih =>
    by_cases hc : isBlank c
    · have ht : isAllBlank t = false := by simpa [isAllBlank, hc] using h
      obtain ⟨x, rest, hx, hblank⟩ := ih ht
      refine ⟨x, rest, ?_, hblank⟩
      rw [← hx]
      exact List.dropWhile_cons_of_pos hc
    · exact ⟨c, t, List.dropWhile_cons_of_neg hc, by simpa using hc⟩

theorem isAllBlank_of_trimRight {t : Text} (h : t.trimRight = []) : t.isAllBlank := by
  rw [trimRight, List.reverse_eq_nil_iff, List.dropWhile_eq_nil_iff] at h
  rw [isAllBlank, List.all_eq_true]
  intro c hc
  exact h c (List.mem_reverse.2 hc)

theorem dropWhile_isBlank_of_head? {t : Text} (h : ∀ c ∈ t.head?, isBlank c = false) :
    t.dropWhile isBlank = t := by
  cases t with
  | nil => rfl
  | cons c t => simp [h c rfl]

theorem dropWhile_isBlank_of_forall {t : Text} (h : ∀ c ∈ t, isBlank c = false) :
    t.dropWhile isBlank = t :=
  dropWhile_isBlank_of_head? fun c hc => h c (List.mem_of_mem_head? hc)

theorem trimRight_of_forall {t : Text} (h : ∀ c ∈ t, isBlank c = false) : t.trimRight = t := by
  rw [trimRight, dropWhile_isBlank_of_forall (by simpa using h), List.reverse_reverse]

theorem trim_of_forall {t : Text} (h : ∀ c ∈ t, isBlank c = false) : t.trim = t := by
  rw [trim, trimLeft, dropWhile_isBlank_of_forall h, trimRight_of_forall h]

theorem head?_trimLeft (t : Text) : ∀ c ∈ t.trimLeft.head?, isBlank c = false := by
  intro c hc
  have hnot := List.head?_dropWhile_not isBlank t
  rw [← trimLeft, Option.mem_def.1 hc] at hnot
  simpa using hnot

theorem getLast?_trimRight (t : Text) : ∀ c ∈ t.trimRight.getLast?, isBlank c = false := by
  intro c hc
  rw [trimRight, List.getLast?_reverse] at hc
  exact head?_trimLeft t.reverse c hc

theorem trimRight_prefix (t : Text) : t.trimRight <+: t := by
  rw [← List.reverse_suffix, trimRight, List.reverse_reverse]
  exact List.dropWhile_suffix _

theorem trimLeft_append {before core : Text} (hbefore : ∀ c ∈ before, isBlank c)
    (hhead : ∀ c ∈ core.head?, isBlank c = false) : (before ++ core).trimLeft = core := by
  rw [trimLeft, List.dropWhile_append_of_pos hbefore, dropWhile_isBlank_of_head? hhead]

theorem trimRight_append {core after : Text} (hafter : ∀ c ∈ after, isBlank c)
    (hlast : ∀ c ∈ core.getLast?, isBlank c = false) : (core ++ after).trimRight = core := by
  rw [trimRight, List.reverse_append, List.dropWhile_append_of_pos (by simpa using hafter),
    dropWhile_isBlank_of_head?, List.reverse_reverse]
  rwa [List.head?_reverse]

/-- Trimming leaves what stands between the blanks, if it neither begins nor ends with one. -/
theorem trim_append {before core after : Text} (hbefore : ∀ c ∈ before, isBlank c)
    (hafter : ∀ c ∈ after, isBlank c) (hne : core ≠ [])
    (hhead : ∀ c ∈ core.head?, isBlank c = false)
    (hlast : ∀ c ∈ core.getLast?, isBlank c = false) :
    (before ++ (core ++ after)).trim = core := by
  have hleft : (before ++ (core ++ after)).trimLeft = core ++ after := by
    apply trimLeft_append hbefore
    obtain ⟨c, rest, rfl⟩ := List.exists_cons_of_ne_nil hne
    exact hhead
  rw [trim, hleft, trimRight_append hafter hlast]

/-- A text is what trimming leaves of it, between blanks. -/
theorem exists_blanks_trim (t : Text) :
    ∃ before after, t = before ++ (t.trim ++ after) ∧ (∀ c ∈ before, isBlank c) ∧
      ∀ c ∈ after, isBlank c := by
  refine ⟨t.takeWhile isBlank, (t.trimLeft.reverse.takeWhile isBlank).reverse, ?_, ?_, ?_⟩
  · rw [trim, trimRight, ← List.reverse_append, List.takeWhile_append_dropWhile,
      List.reverse_reverse, trimLeft, List.takeWhile_append_dropWhile]
  · intro c hc
    exact List.mem_takeWhile_imp hc
  · intro c hc
    exact List.mem_takeWhile_imp (List.mem_reverse.1 hc)

end CommandLang.Text
