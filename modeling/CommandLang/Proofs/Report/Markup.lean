/-
  CommandLang/Proofs/Report/Markup.lean
  =====================================
  **Tags of an escaped text.**

  Escaping rewrites the tags of a text, and what is rendered is taken apart anew.  The tags that
  are found then are those of the text as it was, no more and no less, each with an odd number of
  backslashes before it (`pieces_escaped`).  For a bracket that begins no tag begins none
  afterwards: the character behind it and the next bracket after that decide, and neither changes
  (`isSome_tagBody?_escaped`).

  A text whose tags all have an odd number of backslashes before them renders, and nothing in it has
  a style.  Names of emoji are looked for in each stretch of it, where tags begin and end others
  (`render_of_inert`).
-/
import CommandLang.Report.Markup
import Mathlib.Data.List.TakeWhile

namespace CommandLang.Markup

variable {t body rest : Text} {ps : List Piece} {emoji : Emoji}

/-! ### The inside of a tag -/

def isBracket (c : Char) : Bool := c == '[' || c == ']'

/-- What may stand between the brackets of a tag. -/
inductive IsBody : Text → Prop
  | mk {c : Char} {t : Text} (start : isTagStart c = true)
      (inside : ∀ x ∈ t, x ≠ '[' ∧ x ≠ ']') : IsBody (c :: t)

theorem isBracket_of_isTagStart {c : Char} (h : isTagStart c = true) : isBracket c = false := by
  by_contra hc
  simp only [isBracket, Bool.not_eq_false, Bool.or_eq_true, beq_iff_eq] at hc
  rcases hc with rfl | rfl
  · exact absurd h (by decide)
  · exact absurd h (by decide)

theorem head?_dropWhile_inside (t : Text) :
    (t.dropWhile fun x => x ≠ '[' ∧ x ≠ ']').head? = t.find? isBracket := by
  induction t with
  | nil => rfl
  | cons c t ih =>
    by_cases hc : c ≠ '[' ∧ c ≠ ']'
    · have hno : isBracket c = false := by simp [isBracket, hc.1, hc.2]
      rw [List.dropWhile_cons_of_pos (by simpa using hc), List.find?_cons_of_neg (by simp [hno])]
      exact ih
    · have hyes : isBracket c = true := by
        simpa [isBracket, or_iff_not_imp_left] using hc
      rw [List.dropWhile_cons_of_neg (by simpa using hc), List.find?_cons_of_pos hyes]
      rfl

/-- A tag begins where a character follows that it may begin with, if the next bracket closes. -/
theorem isSome_tagBody? (t : Text) :
    (tagBody? t).isSome = (t.head?.any isTagStart && t.find? isBracket == some ']') := by
  cases t with
  | nil => rfl
  | cons c t =>
    by_cases hc : isTagStart c = true
    · -- the first character is no bracket, so the next bracket is the first of what follows
      have hno := isBracket_of_isTagStart hc
      rw [List.find?_cons_of_neg (by simp [hno]), ← head?_dropWhile_inside]
      simp only [tagBody?, hc, if_true, List.head?_cons, Option.any_some, Bool.true_and]
      split
      · rename_i hdrop
        rw [hdrop]
        rfl
      · rename_i hdrop
        cases hrest : t.dropWhile fun x => x ≠ '[' ∧ x ≠ ']' with
        | nil => rfl
        | cons x r =>
          have hx : x ≠ ']' := by
            rintro rfl
            exact hdrop r hrest
          simp [hx]
    · simp [tagBody?, hc]

theorem isBody_of_tagBody? (h : tagBody? t = some (body, rest)) : IsBody body := by
  cases t with
  | nil => cases h
  | cons c t =>
    simp only [tagBody?] at h
    split at h
    · rename_i hc
      split at h
      · obtain ⟨rfl, -⟩ := Prod.mk.inj (Option.some.inj h)
        refine ⟨hc, fun x hx => ?_⟩
        simpa using List.mem_takeWhile_imp hx
      · cases h
    · cases h

theorem tagBody?_append (hbody : IsBody body) (rest : Text) :
    tagBody? (body ++ ']' :: rest) = some (body, rest) := by
  obtain ⟨hc, hinside⟩ := hbody
  rename_i c t
  have hall : ∀ x ∈ t, decide (x ≠ '[' ∧ x ≠ ']') = true := by simpa using hinside
  simp only [List.cons_append, tagBody?, hc, if_true]
  rw [List.dropWhile_append_of_pos hall, List.takeWhile_append_of_pos hall]
  simp

/-! ### Taking a text apart -/

@[simp] theorem piecesAfter_nil (n : Nat) : piecesAfter n [] = [.last n] := by
  rw [piecesAfter]

@[simp] theorem piecesAfter_backslash (n : Nat) (t : Text) :
    piecesAfter n ('\\' :: t) = piecesAfter (n + 1) t := by
  rw [piecesAfter, if_pos rfl]

theorem piecesAfter_tag (n : Nat) (h : tagBody? t = some (body, rest)) :
    piecesAfter n ('[' :: t) = .tag n body :: piecesAfter 0 rest := by
  rw [piecesAfter, if_neg (by decide), if_pos rfl]
  split
  · rename_i h'
    obtain ⟨rfl, rfl⟩ := Prod.mk.inj (Option.some.inj (h.symm.trans h'))
    rfl
  · rename_i h'
    exact absurd (h.symm.trans h') (by simp)

theorem piecesAfter_bracket (n : Nat) (h : tagBody? t = none) :
    piecesAfter n ('[' :: t) = .char n '[' :: piecesAfter 0 t := by
  rw [piecesAfter, if_neg (by decide), if_pos rfl]
  split
  · rename_i h'
    exact absurd (h.symm.trans h') (by simp)
  · rfl

theorem piecesAfter_char (n : Nat) {c : Char} (t : Text) (hslash : c ≠ '\\') (hbracket : c ≠ '[') :
    piecesAfter n (c :: t) = .char n c :: piecesAfter 0 t := by
  rw [piecesAfter, if_neg hslash, if_neg hbracket]

theorem piecesAfter_backslashes (k n : Nat) (t : Text) :
    piecesAfter k (backslashes n ++ t) = piecesAfter (k + n) t := by
  induction n generalizing k with
  | zero => rfl
  | succ n ih =>
    have hsucc : backslashes (n + 1) ++ t = '\\' :: (backslashes n ++ t) := by
      simp [backslashes, List.replicate_succ]
    rw [hsucc, piecesAfter_backslash, ih, Nat.add_assoc, Nat.add_comm 1]

/-! ### Tags of an escaped text -/

section Escaped

variable (n m : Nat) (u : Text)

theorem escaped_last_append :
    [Piece.last n].flatMap Piece.escaped ++ u = backslashes n ++ u := by
  rw [List.flatMap_singleton]
  rfl

theorem escaped_char_append (c : Char) (ps : List Piece) :
    (Piece.char n c :: ps).flatMap Piece.escaped ++ u =
      backslashes n ++ c :: (ps.flatMap Piece.escaped ++ u) := by
  rw [List.flatMap_cons, List.append_assoc]
  exact List.append_assoc _ _ _

theorem escaped_tag_append (body : Text) (ps : List Piece) :
    (Piece.tag n body :: ps).flatMap Piece.escaped ++ u =
      backslashes (2 * n + 1) ++ '[' :: (body ++ ']' :: (ps.flatMap Piece.escaped ++ u)) := by
  simp [Piece.escaped, bracketed]

theorem find?_backslashes_append : (backslashes n ++ u).find? isBracket = u.find? isBracket := by
  have hno : isBracket '\\' = false := by decide
  rw [List.find?_append, backslashes, List.find?_replicate]
  simp [hno]

theorem head?_backslashes_append :
    (backslashes n ++ u).head?.any isTagStart = (n == 0 && u.head?.any isTagStart) := by
  have hno : isTagStart '\\' = false := by decide
  cases n with
  | zero => simp [backslashes]
  | succ n => simp [backslashes, List.replicate_succ, hno]

theorem find?_backslashes : (backslashes n).find? isBracket = none := by
  rw [← List.append_nil (backslashes n), find?_backslashes_append]
  rfl

theorem head?_backslashes : (backslashes n).head?.any isTagStart = false := by
  rw [← List.append_nil (backslashes n), head?_backslashes_append]
  simp

theorem find?_escaped (t : Text) :
    ((piecesAfter n t).flatMap Piece.escaped ++ backslashes m).find? isBracket =
      t.find? isBracket := by
  fun_induction piecesAfter n t with
  | case1 n =>
    rw [escaped_last_append, find?_backslashes_append, find?_backslashes]
    rfl
  | case2 n t ih => rw [ih, List.find?_cons_of_neg (by decide)]
  | case3 n t body rest h _ ih =>
    rw [escaped_tag_append, find?_backslashes_append]
    rfl
  | case4 n t h _ ih =>
    rw [escaped_char_append, find?_backslashes_append]
    rfl
  | case5 n c t _ _ ih =>
    rw [escaped_char_append, find?_backslashes_append, List.find?_cons, List.find?_cons, ih]

theorem head?_escaped (t : Text) :
    ((piecesAfter n t).flatMap Piece.escaped ++ backslashes m).head?.any isTagStart =
      (n == 0 && t.head?.any isTagStart) := by
  have hslash : isTagStart '\\' = false := by decide
  have hbracket : isTagStart '[' = false := by decide
  fun_induction piecesAfter n t with
  | case1 n =>
    rw [escaped_last_append, head?_backslashes_append, head?_backslashes]
    rfl
  | case2 n t ih =>
    rw [ih]
    simp [hslash]
  | case3 n t body rest h _ ih =>
    rw [escaped_tag_append, head?_backslashes_append]
    simp [hbracket]
  | case4 n t h _ ih =>
    rw [escaped_char_append, head?_backslashes_append]
    rfl
  | case5 n c t _ _ ih =>
    rw [escaped_char_append, head?_backslashes_append]
    rfl

/-- Where a tag begins in a text, one begins in what becomes of it, and nowhere else. -/
theorem isSome_tagBody?_escaped (t : Text) :
    (tagBody? ((piecesAfter 0 t).flatMap Piece.escaped ++ backslashes m)).isSome =
      (tagBody? t).isSome := by
  rw [isSome_tagBody?, head?_escaped, find?_escaped, isSome_tagBody?]
  rfl

/-- The piece that is found where this one was escaped, when so many backslashes were put at the end
    of the text. -/
def Piece.disarmed (atEnd : Nat) : Piece → Piece
  | char slashes c => char slashes c
  | tag slashes body => tag (2 * slashes + 1) body
  | last slashes => last (slashes + atEnd)

theorem pieces_escaped (t : Text) :
    pieces ((piecesAfter n t).flatMap Piece.escaped ++ backslashes m) =
      (piecesAfter n t).map (Piece.disarmed m) := by
  rw [pieces]
  -- by the pieces of the text; each is found again before the escaped text of the others
  fun_induction piecesAfter n t with
  | case1 n =>
    rw [escaped_last_append, piecesAfter_backslashes, Nat.zero_add,
      ← List.append_nil (backslashes m), piecesAfter_backslashes, piecesAfter_nil]
    rfl
  | case2 n t ih => exact ih
  | case3 n t body rest h _ ih =>
    have htag := tagBody?_append (isBody_of_tagBody? h)
      ((piecesAfter 0 rest).flatMap Piece.escaped ++ backslashes m)
    rw [escaped_tag_append, piecesAfter_backslashes, Nat.zero_add, piecesAfter_tag _ htag, ih]
    rfl
  | case4 n t h _ ih =>
    -- a bracket that begins no tag begins none before the escaped rest either
    have hnone : tagBody? ((piecesAfter 0 t).flatMap Piece.escaped ++ backslashes m) = none := by
      rw [← Option.not_isSome_iff_eq_none, isSome_tagBody?_escaped, h]
      simp
    rw [escaped_char_append, piecesAfter_backslashes, Nat.zero_add, piecesAfter_bracket _ hnone, ih]
    rfl
  | case5 n c t hslash hbracket ih =>
    rw [escaped_char_append, piecesAfter_backslashes, Nat.zero_add,
      piecesAfter_char _ _ hslash hbracket, ih]
    rfl

end Escaped

/-! ### Rendering without styles -/

/-- The pieces have no tag that is more than plain text. -/
def Inert (ps : List Piece) : Prop :=
  ∀ slashes body, Piece.tag slashes body ∈ ps → slashes % 2 = 1

theorem inert_disarmed (m : Nat) (ps : List Piece) : Inert (ps.map (Piece.disarmed m)) := by
  intro slashes body h
  obtain ⟨piece, -, hpiece⟩ := List.mem_map.1 h
  cases piece with
  | char k c => cases hpiece
  | last k => cases hpiece
  | tag k body' =>
    obtain ⟨rfl, -⟩ := Piece.tag.inj hpiece
    omega

theorem inert_pieces_of_not_mem (h : '[' ∉ t) : Inert (pieces t) := by
  intro slashes body hmem
  -- the bracket of a tag is a character of the text
  have hsource : '[' ∈ (pieces t).flatMap Piece.source :=
    List.mem_flatMap.2 ⟨_, hmem, by simp [Piece.source, bracketed]⟩
  rw [source_pieces] at hsource
  exact absurd hsource h

/-- What a piece shows that is no more than plain text: it loses every second backslash before a
    tag, and one before a bracket that begins none. -/
def Piece.shown : Piece → Piece
  | char slashes c => char (if c = '[' then slashes - 1 else slashes) c
  | tag slashes body => tag (slashes / 2) body
  | last slashes => last slashes

/-- The stretches in which names of emoji are looked for: tags, the backslashes before them and what
    stands between them, some text having been read before. -/
def stretchesAfter (before : Text) : List Piece → List Text
  | [] => [before]
  | .tag slashes body :: rest =>
    before :: backslashes slashes :: bracketed body :: stretchesAfter [] rest
  | piece :: rest => stretchesAfter (before ++ piece.source) rest

theorem flatten_stretchesAfter (before : Text) (ps : List Piece) :
    (stretchesAfter before ps).flatten = before ++ ps.flatMap Piece.source := by
  induction ps generalizing before with
  | nil => simp [stretchesAfter]
  | cons piece ps ih => cases piece <;> simp [stretchesAfter, Piece.source, ih]

/-- What is rendered of inert pieces is plain text. -/
theorem chunksAfter_of_inert (hps : Inert ps) (before : Text) (position : Nat) :
    chunksAfter before position ps =
      (stretchesAfter before (ps.map Piece.shown)).map Chunk.plain := by
  induction ps generalizing before position with
  | nil => rfl
  | cons piece ps ih =>
    have htail : Inert ps := fun slashes body h => hps slashes body (List.mem_cons_of_mem _ h)
    cases piece with
    | char slashes c => exact ih htail _ _
    | last slashes => exact ih htail _ _
    | tag slashes body =>
      have hodd := hps slashes body List.mem_cons_self
      simp only [chunksAfter, hodd, if_true, ih htail]
      rfl

theorem renderChunks_plain (emoji : Emoji) (shown : Nat) (ts : List Text) :
    renderChunks emoji [] shown (ts.map .plain) =
      .ok ⟨(ts.flatMap emoji.replace).filter isShown, []⟩ := by
  induction ts generalizing shown with
  | nil => rfl
  | cons t ts ih =>
    rw [List.map_cons, renderChunks, ih, List.flatMap_cons, List.filter_append]
    rfl

theorem render_of_inert (h : Inert (pieces t)) :
    render emoji t =
      .ok ⟨((stretchesAfter [] ((pieces t).map Piece.shown)).flatMap emoji.replace).filter isShown,
        []⟩ := by
  rw [render, chunks, chunksAfter_of_inert h, renderChunks_plain]
  simp [bind, Except.bind, pure, Except.pure]

theorem exists_render_of_not_mem (h : '[' ∉ t) : ∃ u, render emoji t = .ok ⟨u, []⟩ :=
  ⟨_, render_of_inert (inert_pieces_of_not_mem h)⟩

end CommandLang.Markup
