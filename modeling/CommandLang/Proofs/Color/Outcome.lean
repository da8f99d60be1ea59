/-
  CommandLang/Proofs/Color/Outcome.lean
  =====================================
  **What reading a colour comes to.**

  A text has one of the three forms `#…`, `rgba(…)` and `rgb(…)`, in small letters and without the
  blanks around it, or it is no colour (`read_cases`).  So it is read as a colour if it is given in
  one of the notations of the grammar (`read_eq_some_iff`), and reading fails if it is a broken call
  (`read_eq_error_iff`).

  The reader takes the small letters of ASCII for the small letters of a text.  Those of every
  alphabet would come to the same, since all characters of the grammar are settled
  (`Given.isSettled`).

  Main statement: `read_has_three_outcomes`.
-/
import CommandLang.Proofs.Color.Case
import CommandLang.Proofs.Color.Grammar
import CommandLang.Proofs.Text.Lower

namespace CommandLang.Color

/-! ### The forms of a text -/

theorem callBody?_of_small {name t body : Text} (ht : ∀ c ∈ t, c.toLower = c)
    (hname : Text.small (name ++ "(") = name ++ "(") :
    callBody? name t = some body ↔ t = name ++ "(" ++ (body ++ [')']) := by
  rw [callBody?_eq_some_iff]
  constructor
  · rintro ⟨word, rfl, hword⟩
    have hsmall : Text.small word = word :=
      Text.small_of_forall fun c hc => ht c (List.mem_append_left _ hc)
    rw [← hsmall]
    exact congrArg (· ++ (body ++ [')'])) hword
  · intro h
    exact ⟨_, h, hname⟩

section Forms

variable {t digits body : Text}

theorem toLower_of_mem_small {c : Char} (h : c ∈ t.small) : c.toLower = c := by
  obtain ⟨x, -, rfl⟩ := List.mem_map.1 h
  exact toLower_toLower x

theorem callBody?_small_rgba :
    callBody? "rgba" t.trim.small = some body ↔ t.trim.small = "rgba" ++ "(" ++ (body ++ [')']) :=
  callBody?_of_small (fun _ => toLower_of_mem_small) (by decide)

theorem callBody?_small_rgb :
    callBody? "rgb" t.trim.small = some body ↔ t.trim.small = "rgb" ++ "(" ++ (body ++ [')']) :=
  callBody?_of_small (fun _ => toLower_of_mem_small) (by decide)

theorem read_of_hex (h : t.trim.small = '#' :: digits) : read t = .ok (ofHexDigits? digits) := by
  rw [← read_small]
  exact read_of_hash ((Text.trim_small t).trans h)

theorem read_of_not_hex (h : ∀ digits, t.trim.small ≠ '#' :: digits) :
    read t = ofCall t.trim.small := by
  rw [← read_small, ← Text.trim_small]
  rw [← Text.trim_small] at h
  exact read_of_not_hash h

theorem read_of_rgba (h : t.trim.small = "rgba" ++ "(" ++ (body ++ [')'])) :
    read t = .ok (ofRgbaBody? body) := by
  rw [read_of_not_hex, ofCall, callBody?_small_rgba.2 h]
  intro digits hdigits
  rw [h] at hdigits
  exact absurd (List.cons.inj hdigits).1 (by decide)

theorem read_of_rgb (h : t.trim.small = "rgb" ++ "(" ++ (body ++ [')'])) :
    read t = ofRgbBody body := by
  have hrgb := callBody?_small_rgb.2 h
  have hrgba : callBody? "rgba" t.trim.small = none := by
    cases hother : callBody? "rgba" t.trim.small with
    | none => rfl
    | some other =>
      rw [callBody?_rgb_of_rgba hother] at hrgb
      cases hrgb
  rw [read_of_not_hex]
  · simp only [ofCall, hrgba, hrgb]
  · intro digits hdigits
    rw [h] at hdigits
    exact absurd (List.cons.inj hdigits).1 (by decide)

/-- A text has one of three forms, or is no colour. -/
theorem read_cases (t : Text) :
    (∃ digits, t.trim.small = '#' :: digits) ∨
      (∃ body, t.trim.small = "rgba" ++ "(" ++ (body ++ [')'])) ∨
      (∃ body, t.trim.small = "rgb" ++ "(" ++ (body ++ [')'])) ∨ read t = .ok none := by
  by_cases hhash : ∃ digits, t.trim.small = '#' :: digits
  · exact .inl hhash
  right
  by_cases hrgba : ∃ body, t.trim.small = "rgba" ++ "(" ++ (body ++ [')'])
  · exact .inl hrgba
  right
  by_cases hrgb : ∃ body, t.trim.small = "rgb" ++ "(" ++ (body ++ [')'])
  · exact .inl hrgb
  right
  have hrgba' : callBody? "rgba" t.trim.small = none :=
    Option.eq_none_iff_forall_ne_some.2 fun body h => hrgba ⟨body, callBody?_small_rgba.1 h⟩
  have hrgb' : callBody? "rgb" t.trim.small = none :=
    Option.eq_none_iff_forall_ne_some.2 fun body h => hrgb ⟨body, callBody?_small_rgb.1 h⟩
  rw [read_of_not_hex fun digits h => hhash ⟨digits, h⟩]
  simp only [ofCall, hrgba', hrgb']

/-- Every notation has one of two signs in it. -/
theorem read_eq_none_of_not_mem (hhash : '#' ∉ t) (hparenthesis : '(' ∉ t) :
    read t = .ok none := by
  have hmem : ∀ x : Char, x.toNat < 65 → x ∈ t.trim.small → x ∈ t := by
    intro x hx hsmall
    rw [Text.mem_iff_of_fold_eq hx (Text.fold_small t.trim)] at hsmall
    obtain ⟨before, after, heq, -, -⟩ := Text.exists_blanks_trim t
    rw [heq]
    simp [hsmall]
  rcases read_cases t with ⟨digits, h⟩ | ⟨body, h⟩ | ⟨body, h⟩ | hnone
  · exact absurd (hmem '#' (by decide) (by simp [h])) hhash
  · exact absurd (hmem '(' (by decide) (by simp [h])) hparenthesis
  · exact absurd (hmem '(' (by decide) (by simp [h])) hparenthesis
  · exact hnone

end Forms

/-! ### Outcomes -/

theorem read_eq_some_iff {t : Text} {color : Color} :
    read t = .ok (some color) ↔ Given color t.trim.small := by
  constructor
  · intro h
    rcases read_cases t with ⟨digits, hform⟩ | ⟨body, hform⟩ | ⟨body, hform⟩ | hnone
    · have hdigits : ∀ c ∈ digits, c.toLower = c := by
        intro c hc
        apply toLower_of_mem_small (t := t.trim)
        rw [hform]
        exact List.mem_cons_of_mem _ hc
      rw [read_of_hex hform] at h
      rw [hform]
      rcases (ofHexDigits?_eq_some_iff hdigits).1 (Except.ok.inj h) with
        ⟨r, g, b, rfl, hr, hg, hb, halpha⟩ | ⟨a, r, g, b, rfl, ha, hr, hg, hb⟩
      · exact .rgbHex hr hg hb halpha
      · exact .argbHex ha hr hg hb
    · rw [read_of_rgba hform] at h
      rw [hform]
      obtain ⟨r, g, b, a, rfl, hr, hg, hb, ha⟩ := ofRgbaBody?_eq_some_iff.1 (Except.ok.inj h)
      exact .rgba hr hg hb ha
    · rw [read_of_rgb hform] at h
      rw [hform]
      obtain ⟨r, g, b, rfl, hr, hg, hb, halpha⟩ := ofRgbBody_eq_some_iff.1 h
      exact .rgb hr hg hb halpha
    · rw [hnone] at h
      cases h
  · intro h
    generalize hform : t.trim.small = u at h
    have hsmall : ∀ c ∈ u, c.toLower = c := by
      rw [← hform]
      exact fun _ => toLower_of_mem_small
    cases h with
    | rgbHex hr hg hb halpha =>
      rw [read_of_hex hform]
      exact congrArg Except.ok ((ofHexDigits?_eq_some_iff (List.forall_mem_cons.1 hsmall).2).2
        (.inl ⟨_, _, _, rfl, hr, hg, hb, halpha⟩))
    | argbHex ha hr hg hb =>
      rw [read_of_hex hform]
      exact congrArg Except.ok ((ofHexDigits?_eq_some_iff (List.forall_mem_cons.1 hsmall).2).2
        (.inr ⟨_, _, _, _, rfl, ha, hr, hg, hb⟩))
    | rgba hr hg hb ha =>
      rw [read_of_rgba hform]
      exact congrArg Except.ok (ofRgbaBody?_eq_some_iff.2 ⟨_, _, _, _, rfl, hr, hg, hb, ha⟩)
    | rgb hr hg hb halpha =>
      rw [read_of_rgb hform]
      exact ofRgbBody_eq_some_iff.2 ⟨_, _, _, rfl, hr, hg, hb, halpha⟩

theorem read_eq_error_iff {t : Text} : (∃ e, read t = .error e) ↔ BrokenCall t.trim.small := by
  constructor
  · rintro ⟨e, he⟩
    rcases read_cases t with ⟨digits, hform⟩ | ⟨body, hform⟩ | ⟨body, hform⟩ | hnone
    · rw [read_of_hex hform] at he
      cases he
    · rw [read_of_rgba hform] at he
      cases he
    · rw [read_of_rgb hform] at he
      obtain ⟨r, g, b, rfl, hparts, hnot⟩ := exists_ofRgbBody_error_iff.1 ⟨e, he⟩
      exact ⟨r, g, b, hform, hparts, hnot⟩
    · rw [hnone] at he
      cases he
  · rintro ⟨r, g, b, hform, hparts, hnot⟩
    rw [read_of_rgb hform]
    exact exists_ofRgbBody_error_iff.2 ⟨r, g, b, rfl, hparts, hnot⟩

/-! ### Small letters of every alphabet -/

theorem isSettled_call {name : Text} {parts : List Text} (hname : ∀ c ∈ name, IsSettled c)
    (hparts : ∀ part ∈ parts, ∀ c ∈ part, isDigit c ∨ isBlank c) :
    ∀ c ∈ name ++ "(" ++ (Text.join [','] parts ++ [')']), IsSettled c := by
  intro c hc
  simp only [List.mem_append] at hc
  rcases hc with (hc | hc) | hc | hc
  · exact hname c hc
  · obtain rfl := List.mem_singleton.1 hc
    decide
  · rcases Text.mem_join hc with hcomma | ⟨part, hpart, hc⟩
    · obtain rfl := List.mem_singleton.1 hcomma
      decide
    · rcases hparts part hpart c hc with hdigit | hblank
      · exact .inl hdigit
      · exact .inr (.inl hblank)
  · obtain rfl := List.mem_singleton.1 hc
    decide

theorem HexPair.isSettled {pair : Text} {byte : Int} (h : HexPair pair byte) :
    ∀ c ∈ pair, IsSettled c := by
  have hdigit : ∀ d < 16, IsSettled (Nat.digitChar d) := by decide
  obtain ⟨hhigh, hlow⟩ := h
  exact List.forall_iff_forall_mem.1 ⟨hdigit _ hhigh, hdigit _ hlow⟩

theorem WholePart.digit_or_blank {part : Text} {channel : Int} (h : WholePart part channel) :
    ∀ c ∈ part, isDigit c ∨ isBlank c := by
  obtain ⟨n, hwhole, -⟩ := wholePart_iff.1 h
  exact digit_or_blank_of_whole hwhole

theorem Given.isSettled {color : Color} {t : Text} (h : Given color t) : ∀ c ∈ t, IsSettled c := by
  have hhash : IsSettled '#' := by decide
  cases h with
  | rgbHex hr hg hb _ =>
    simp only [List.forall_mem_cons, List.flatten_cons, List.flatten_nil, List.append_nil,
      List.forall_mem_append]
    exact ⟨hhash, hr.isSettled, hg.isSettled, hb.isSettled⟩
  | argbHex ha hr hg hb =>
    simp only [List.forall_mem_cons, List.flatten_cons, List.flatten_nil, List.append_nil,
      List.forall_mem_append]
    exact ⟨hhash, ha.isSettled, hr.isSettled, hg.isSettled, hb.isSettled⟩
  | rgba hr hg hb ha =>
    apply isSettled_call (by decide)
    exact List.forall_iff_forall_mem.1
      ⟨hr.digit_or_blank, hg.digit_or_blank, hb.digit_or_blank, ha.digit_or_blank⟩
  | rgb hr hg hb _ =>
    apply isSettled_call (by decide)
    exact List.forall_iff_forall_mem.1
      ⟨hr.digit_or_blank, hg.digit_or_blank, hb.digit_or_blank⟩

theorem given_lower_iff {color : Color} {t : Text} : Given color t.lower ↔ Given color t.small := by
  constructor
  · intro h
    rwa [(Text.lower_eq_iff h.isSettled).1 rfl]
  · intro h
    rwa [(Text.lower_eq_iff h.isSettled).2 rfl]

theorem brokenCall_lower_iff {t : Text} : BrokenCall t.lower ↔ BrokenCall t.small := by
  constructor
  · rintro ⟨r, g, b, h, hparts, hnot⟩
    exact ⟨r, g, b, (Text.lower_eq_iff (isSettled_call (by decide) hparts)).1 h, hparts, hnot⟩
  · rintro ⟨r, g, b, h, hparts, hnot⟩
    exact ⟨r, g, b, (Text.lower_eq_iff (isSettled_call (by decide) hparts)).2 h, hparts, hnot⟩

/-- **Reading a colour comes to one of three.**  It fails if the text, in small letters and without
    the blanks around it, is a broken call; it gives a colour if that text gives the colour, whose
    channels are bytes; and else there is no colour. -/
theorem read_has_three_outcomes (t : Text) :
    ((∃ e, read t = .error e) ↔ BrokenCall t.trim.lower) ∧
      (∀ color, read t = .ok (some color) ↔ Given color t.trim.lower) ∧
      (read t = .ok none ↔ ¬ BrokenCall t.trim.lower ∧ ∀ color, ¬ Given color t.trim.lower) ∧
      ∀ color, Given color t.trim.lower → color.InRange := by
  have herror : (∃ e, read t = .error e) ↔ BrokenCall t.trim.lower :=
    read_eq_error_iff.trans brokenCall_lower_iff.symm
  have hsome : ∀ color, read t = .ok (some color) ↔ Given color t.trim.lower :=
    fun _ => read_eq_some_iff.trans given_lower_iff.symm
  refine ⟨herror, hsome, ?_, fun color h => inRange_of_read ((hsome color).2 h)⟩
  simp only [← herror, ← hsome]
  constructor
  · intro h
    simp [h]
  · rintro ⟨hnoerror, hnocolor⟩
    cases hread : read t with
    | error e => exact absurd ⟨e, hread⟩ hnoerror
    | ok outcome =>
      cases outcome with
      | none => rfl
      | some color => exact absurd hread (hnocolor color)

/-- Digits of two scripts and a leading zero in a call of `rgba`, and a call of `rgb` without any. -/
theorem read_has_three_outcomes_of_calls :
    read "\u00A0RGBA( 1\t,２,03,255)\n" = .ok (some ⟨1, 2, 3, 255⟩) ∧
      (∃ e, read "Rgb(, ,)" = .error e) ∧ Color.InRange ⟨1, 2, 3, 255⟩ := by
  have hgiven : Given ⟨1, 2, 3, 255⟩
      (Text.lower (Text.trim "\u00A0RGBA( 1\t,２,03,255)\n")) := by
    have hform : Text.lower (Text.trim "\u00A0RGBA( 1\t,２,03,255)\n") =
        "rgba" ++ "(" ++ (Text.join [','] [" 1\t", "２", "03", "255"] ++ [')']) := by
      decide +kernel
    have hpart : ∀ (before run after : Text) (n : Nat), (∀ c ∈ before, isBlank c) ∧
        (∀ c ∈ after, isBlank c) ∧ (Numeral.IsRun run ∧ run.length ≤ 3 ∧ Numeral.ofDigits run = n) ∧
        n ≤ 255 → ShortPart (before ++ (run ++ after)) n := by
      rintro before run after n ⟨hbefore, hafter, hrun, hle⟩
      exact ⟨before, run, after, n, rfl, hbefore, hafter, shortRun_iff.2 hrun, hle, rfl⟩
    rw [hform]
    exact .rgba (hpart " " "1" "\t" 1 (by decide)) (hpart "" "２" "" 2 (by decide))
      (hpart "" "03" "" 3 (by decide)) (hpart "" "255" "" 255 (by decide))
  have hbroken : BrokenCall (Text.lower (Text.trim "Rgb(, ,)")) := by
    refine ⟨[], [' '], [], by decide +kernel, by decide, [], by decide, ?_⟩
    rintro ⟨run, before, after, h, -, -, hrun, -⟩
    simp only [List.nil_eq_append_iff, List.append_eq_nil_iff] at h
    exact hrun.1 h.2.1
  obtain ⟨-, hsome, -, hrange⟩ := read_has_three_outcomes "\u00A0RGBA( 1\t,２,03,255)\n"
  exact ⟨(hsome _).2 hgiven, (read_has_three_outcomes "Rgb(, ,)").1.2 hbroken, hrange _ hgiven⟩

end CommandLang.Color
