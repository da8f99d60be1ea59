/-
  CommandLang/Proofs/Report/Escape.lean
  =====================================
  **What shows of an escaped text.**

  An escaped text is made of the pieces of the text, the tags among them made plain text.  So each
  piece shows as it was written, but for two things: a bracket that begins no tag takes one
  backslash before it away, and a lone backslash at the end of the text shows twice
  (`visiblePieces`, `render_escape`).  What shows is the text itself exactly if neither comes about
  (`visible_eq_self_iff`), but for the names of emoji and the characters that never show
  (`render_escape_of_displayable`).
-/
import CommandLang.Proofs.Report.Markup
import Mathlib.Data.List.Basic

namespace CommandLang.Markup

variable {t u v : Text} {c : Char} {n m : Nat} {emoji : Emoji}

/-! ### Brackets behind a backslash -/

theorem IsBody.bracket_not_mem (h : IsBody t) : '[' ∉ t := by
  obtain ⟨hstart, hinside⟩ := h
  rw [List.mem_cons, not_or]
  constructor
  · rintro rfl
    exact absurd hstart (by decide)
  · intro hmem
    exact (hinside '[' hmem).1 rfl

/-- The text behind a bracket that begins a tag. -/
def BeginsTag (t : Text) : Prop := ∃ body rest, IsBody body ∧ t = body ++ ']' :: rest

theorem beginsTag_iff : BeginsTag t ↔ (tagBody? t).isSome := by
  constructor
  · rintro ⟨body, rest, hbody, rfl⟩
    rw [tagBody?_append hbody]
    rfl
  · intro h
    obtain ⟨⟨body, rest⟩, htag⟩ := Option.isSome_iff_exists.1 h
    exact ⟨body, rest, isBody_of_tagBody? htag, eq_of_tagBody? htag⟩

/-- Every bracket that directly follows a backslash begins a tag. -/
def Unhidden (t : Text) : Prop := ∀ w, '\\' :: '[' :: w <:+ t → BeginsTag w

theorem unhidden_cons : Unhidden (c :: t) ↔
    (∀ w, c = '\\' → t = '[' :: w → BeginsTag w) ∧ Unhidden t := by
  constructor
  · intro h
    constructor
    · rintro w rfl rfl
      exact h w (List.suffix_refl _)
    · intro w hw
      exact h w (hw.trans (List.suffix_cons c t))
  · rintro ⟨hhead, ht⟩ w hw
    rcases List.suffix_cons_iff.1 hw with heq | hw
    · rw [List.cons.injEq] at heq
      exact hhead w heq.1.symm heq.2.symm
    · exact ht w hw

theorem unhidden_cons_of_ne (hc : c ≠ '\\') : Unhidden (c :: t) ↔ Unhidden t := by
  rw [unhidden_cons]
  exact and_iff_right fun w hslash => absurd hslash hc

theorem unhidden_slash_bracket :
    Unhidden ('\\' :: '[' :: t) ↔ BeginsTag t ∧ Unhidden ('[' :: t) := by
  rw [unhidden_cons]
  apply and_congr_left'
  constructor
  · intro h
    exact h t rfl rfl
  · rintro h w - ⟨⟩
    exact h

theorem unhidden_append_cons (hu : '[' ∉ u) (hc : c ≠ '[') :
    Unhidden (u ++ c :: v) ↔ Unhidden (c :: v) := by
  induction u with
  | nil => rfl
  | cons x u ih =>
    rw [List.mem_cons, not_or] at hu
    rw [List.cons_append, unhidden_cons, ih hu.2]
    apply and_iff_right
    intro w _ heq
    cases u with
    | nil => exact absurd (List.cons.inj heq).1 hc
    | cons y u => exact absurd (List.cons.inj heq).1.symm fun h => hu.2 (h ▸ List.mem_cons_self)

theorem bracket_not_mem_backslashes (n : Nat) : '[' ∉ backslashes n := by
  intro h
  exact absurd (List.eq_of_mem_replicate h) (by decide)

theorem unhidden_backslashes_append (n : Nat) (hc : c ≠ '[') :
    Unhidden (backslashes n ++ c :: t) ↔ Unhidden (c :: t) :=
  unhidden_append_cons (bracket_not_mem_backslashes n) hc

theorem unhidden_backslashes_bracket (n : Nat) :
    Unhidden (backslashes n ++ '[' :: t) ↔ (0 < n → BeginsTag t) ∧ Unhidden t := by
  cases n with
  | zero => simp [backslashes, unhidden_cons_of_ne]
  | succ n =>
    rw [backslashes_succ, unhidden_backslashes_append n (by decide), unhidden_slash_bracket,
      unhidden_cons_of_ne (by decide)]
    simp

/-! ### What shows -/

/-- A piece of a text as it shows when the text is escaped and so many backslashes are put at its
    end. -/
def Piece.visible (atEnd : Nat) : Piece → Piece
  | char slashes c => char (if c = '[' then slashes - 1 else slashes) c
  | tag slashes body => tag slashes body
  | last slashes => last (slashes + atEnd)

/-- The pieces of a text as they show when it is escaped. -/
def visiblePieces (t : Text) : List Piece :=
  (pieces t).map (Piece.visible (if endsInLoneBackslash t then 1 else 0))

/-- The text as it shows when it is escaped, were it not for names of emoji and for the characters
    that never show. -/
def visible (t : Text) : Text := (visiblePieces t).flatMap Piece.source

theorem endsInLoneBackslash_append_cons (hc : c ≠ '\\') :
    endsInLoneBackslash (u ++ c :: v) = endsInLoneBackslash v := by
  have hreverse : (u ++ c :: v).reverse = v.reverse ++ c :: u.reverse := by simp
  rw [endsInLoneBackslash, endsInLoneBackslash, hreverse]
  rcases v.reverse with _ | ⟨a, _ | ⟨b, r⟩⟩
  · simp [hc]
  · by_cases ha : a = '\\'
    · simp [ha, hc]
    · simp [ha]
  · by_cases ha : a = '\\'
    · by_cases hb : b = '\\'
      · simp [ha, hb]
      · simp [ha, hb]
    · simp [ha]

theorem flatMap_escaped_char (n : Nat) (c : Char) (ps : List Piece) :
    (Piece.char n c :: ps).flatMap Piece.escaped =
      backslashes n ++ c :: ps.flatMap Piece.escaped := by
  simpa using escaped_char_append n [] c ps

theorem flatMap_escaped_tag (n : Nat) (body : Text) (ps : List Piece) :
    (Piece.tag n body :: ps).flatMap Piece.escaped =
      (backslashes (2 * n + 1) ++ '[' :: body) ++ ']' :: ps.flatMap Piece.escaped := by
  simpa using escaped_tag_append n [] body ps

/-- A text ends in a lone backslash exactly if it does so with its tags made plain text. -/
theorem endsInLoneBackslash_escaped (n : Nat) (t : Text) :
    endsInLoneBackslash ((piecesAfter n t).flatMap Piece.escaped) =
      endsInLoneBackslash (backslashes n ++ t) := by
  fun_induction piecesAfter n t with
  | case1 n => simp [Piece.escaped, Piece.source]
  | case2 n t ih => rw [ih, backslashes_succ]
  | case3 n t body rest h _ ih =>
    have hrest : backslashes n ++ '[' :: t = (backslashes n ++ '[' :: body) ++ ']' :: rest := by
      rw [eq_of_tagBody? h, List.append_assoc, List.cons_append]
    rw [flatMap_escaped_tag, hrest, endsInLoneBackslash_append_cons (by decide),
      endsInLoneBackslash_append_cons (by decide)]
    exact ih
  | case4 n t h _ ih =>
    rw [flatMap_escaped_char, endsInLoneBackslash_append_cons (by decide),
      endsInLoneBackslash_append_cons (by decide)]
    exact ih
  | case5 n c t hslash hbracket ih =>
    rw [flatMap_escaped_char, endsInLoneBackslash_append_cons hslash,
      endsInLoneBackslash_append_cons hslash]
    exact ih

/-- **An escaped text is made of the pieces of the text**, the tags among them made plain text. -/
theorem pieces_escape (t : Text) :
    pieces (escape t) =
      (pieces t).map (Piece.disarmed (if endsInLoneBackslash t then 1 else 0)) := by
  have hends : endsInLoneBackslash ((pieces t).flatMap Piece.escaped) = endsInLoneBackslash t :=
    endsInLoneBackslash_escaped 0 t
  rw [escape, hends]
  split
  · exact pieces_escaped 0 1 t
  · rw [← List.append_nil ((pieces t).flatMap Piece.escaped)]
    exact pieces_escaped 0 0 t

/-- No tag of an escaped text is more than plain text. -/
theorem inert_pieces_escape (t : Text) : Inert (pieces (escape t)) := by
  rw [pieces_escape]
  exact inert_disarmed _ (pieces t)

theorem shown_disarmed (m : Nat) (p : Piece) : (p.disarmed m).shown = p.visible m := by
  cases p with
  | char slashes c => rfl
  | last slashes => rfl
  | tag slashes body =>
    have hhalf : (2 * slashes + 1) / 2 = slashes := by omega
    rw [Piece.disarmed, Piece.shown, hhalf]
    rfl

/-- **An escaped text shows as it was written**, but for brackets that lose a backslash, a lone
    backslash at the end, names of emoji and the characters that never show. -/
theorem render_escape (emoji : Emoji) (t : Text) :
    render emoji (escape t) =
      .ok ⟨((stretchesAfter [] (visiblePieces t)).flatMap emoji.replace).filter isShown, []⟩ := by
  have hpieces : (pieces (escape t)).map Piece.shown = visiblePieces t := by
    rw [pieces_escape, List.map_map, visiblePieces]
    exact List.map_congr_left fun p _ => shown_disarmed _ p
  rw [render_of_inert (inert_pieces_escape t), hpieces]

theorem exists_render_escape (emoji : Emoji) (t : Text) :
    ∃ u, render emoji (escape t) = .ok ⟨u, []⟩ :=
  ⟨_, render_escape emoji t⟩

/-! ### Texts that show as they are -/

/-- Nothing of the text is taken away or doubled when it is escaped and shown. -/
structure Displayable (t : Text) : Prop where
  ending : endsInLoneBackslash t = false
  brackets : Unhidden t

theorem unhidden_of_not_mem (h : '[' ∉ t) : Unhidden t := by
  intro w hw
  exact absurd (hw.subset (by simp)) h

theorem visible_bracket_iff :
    (Piece.char n '[').visible m = Piece.char n '[' ↔ n = 0 := by
  rw [Piece.visible, if_pos rfl, Piece.char.injEq, and_iff_left rfl]
  omega

theorem visible_char (n m : Nat) (hc : c ≠ '[') : (Piece.char n c).visible m = .char n c := by
  rw [Piece.visible, if_neg hc]

theorem unhidden_iff_forall_visible (n : Nat) (t : Text) :
    Unhidden (backslashes n ++ t) ↔ ∀ p ∈ piecesAfter n t, p.visible 0 = p := by
  fun_induction piecesAfter n t with
  | case1 n =>
    rw [List.append_nil, List.forall_mem_singleton]
    exact iff_of_true (unhidden_of_not_mem (bracket_not_mem_backslashes n)) rfl
  | case2 n t ih => rw [← backslashes_succ, ih]
  | case3 n t body rest h _ ih =>
    have hbegins : BeginsTag t := beginsTag_iff.2 (by rw [h]; rfl)
    have hrest : Unhidden t ↔ Unhidden rest := by
      rw [eq_of_tagBody? h, unhidden_append_cons (isBody_of_tagBody? h).bracket_not_mem (by decide),
        unhidden_cons_of_ne (by decide)]
    rw [unhidden_backslashes_bracket, hrest, List.forall_mem_cons, ← ih]
    exact and_congr (iff_of_true (fun _ => hbegins) rfl) Iff.rfl
  | case4 n t h _ ih =>
    have hnone : ¬ BeginsTag t := by
      rw [beginsTag_iff, h]
      exact Bool.false_ne_true
    rw [unhidden_backslashes_bracket, List.forall_mem_cons, ← ih, visible_bracket_iff]
    refine and_congr ?_ Iff.rfl
    rw [imp_iff_not hnone, Nat.pos_iff_ne_zero, not_not]
  | case5 n c t hslash hbracket ih =>
    rw [unhidden_backslashes_append n hbracket, unhidden_cons_of_ne hslash, List.forall_mem_cons,
      ← ih]
    exact (and_iff_right (visible_char n 0 hbracket)).symm

/-- If what shows is the text, then each piece shows as it was written and nothing is put at the
    end. -/
theorem forall_visible_of_eq (n m : Nat) (t : Text)
    (h : ((piecesAfter n t).map (Piece.visible m)).flatMap Piece.source = backslashes n ++ t) :
    m = 0 ∧ ∀ p ∈ piecesAfter n t, p.visible 0 = p := by
  fun_induction piecesAfter n t with
  | case1 n =>
    have hlength := congrArg List.length h
    simp only [List.map_singleton, List.flatMap_singleton, Piece.visible, Piece.source, backslashes,
      List.append_nil, List.length_replicate] at hlength
    exact ⟨by omega, List.forall_mem_singleton.2 rfl⟩
  | case2 n t ih =>
    rw [← backslashes_succ] at h
    exact ih h
  | case3 n t body rest htag _ ih =>
    rw [eq_of_tagBody? htag] at h
    have hrest : ((piecesAfter 0 rest).map (Piece.visible m)).flatMap Piece.source = rest := by
      simpa [Piece.visible, Piece.source, bracketed] using h
    obtain ⟨hm, hall⟩ := ih hrest
    exact ⟨hm, List.forall_mem_cons.2 ⟨rfl, hall⟩⟩
  | case4 n t htag _ ih =>
    rw [List.map_cons, List.flatMap_cons, Piece.visible, if_pos rfl, Piece.source,
      List.append_assoc, List.singleton_append] at h
    cases n with
    | zero =>
      obtain ⟨hm, hall⟩ := ih (List.cons.inj h).2
      exact ⟨hm, List.forall_mem_cons.2 ⟨rfl, hall⟩⟩
    | succ n =>
      -- the first backslash that is lost would have to be the bracket
      rw [backslashes_succ, Nat.add_sub_cancel, List.append_cancel_left_eq] at h
      exact absurd (List.cons.inj h).1 (by decide)
  | case5 n c t _ hbracket ih =>
    rw [List.map_cons, List.flatMap_cons, visible_char n m hbracket, Piece.source,
      List.append_assoc, List.append_cancel_left_eq] at h
    obtain ⟨hm, hall⟩ := ih (List.cons.inj h).2
    exact ⟨hm, List.forall_mem_cons.2 ⟨visible_char n 0 hbracket, hall⟩⟩

theorem visiblePieces_of_displayable (h : Displayable t) : visiblePieces t = pieces t := by
  have hvisible : ∀ p ∈ pieces t, p.visible 0 = id p :=
    (unhidden_iff_forall_visible 0 t).1 h.brackets
  rw [visiblePieces, h.ending, if_neg Bool.false_ne_true, List.map_congr_left hvisible, List.map_id]

/-- **An escaped text shows as it is exactly if it is displayable.** -/
theorem visible_eq_self_iff : visible t = t ↔ Displayable t := by
  constructor
  · intro h
    obtain ⟨hending, hvisible⟩ := forall_visible_of_eq 0 _ t h
    refine ⟨?_, (unhidden_iff_forall_visible 0 t).2 hvisible⟩
    by_contra hends
    rw [Bool.not_eq_false] at hends
    rw [if_pos hends] at hending
    cases hending
  · intro h
    rw [visible, visiblePieces_of_displayable h]
    exact source_pieces t

/-! ### Names of emoji -/

/-- The stretches of a text in which names of emoji are looked for. -/
def stretches (t : Text) : List Text := stretchesAfter [] (pieces t)

theorem flatten_stretches (t : Text) : (stretches t).flatten = t := by
  rw [stretches, flatten_stretchesAfter, List.nil_append, source_pieces]

/-- The text with emoji in place of their names, without the characters that never show. -/
def displayed (emoji : Emoji) (t : Text) : Text :=
  ((stretches t).flatMap emoji.replace).filter isShown

theorem render_escape_of_displayable (h : Displayable t) :
    render emoji (escape t) = .ok ⟨displayed emoji t, []⟩ := by
  rw [render_escape, visiblePieces_of_displayable h]
  rfl

/-- A text without a colon has no names of emoji. -/
theorem displayed_of_not_mem (h : ':' ∉ t) : displayed emoji t = t.filter isShown := by
  have hsame : ∀ u ∈ stretches t, emoji.replace u = id u := by
    intro u hu
    apply emoji.replace_of_not_mem
    intro hmem
    rw [← flatten_stretches t] at h
    exact h (List.mem_flatten.2 ⟨u, hu, hmem⟩)
  rw [displayed, List.flatMap_congr hsame, List.flatMap_id, flatten_stretches]

end CommandLang.Markup
