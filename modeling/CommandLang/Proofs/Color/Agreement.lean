/-
  CommandLang/Proofs/Color/Agreement.lean
  =======================================
  **The notations of a colour agree.**

  The same three values may be given to `rgb`, to `rgba` with 255 for the opacity, and in
  hexadecimal digits, with `ff` before them or without.  Each notation is read in its own way, with
  its own idea of what may stand around a number; but short runs of digits between spaces are numbers
  to both functions, and a value above 255 makes no colour in either.

  Main statement: `notations_agree`.
-/
import CommandLang.Proofs.Color.Outcome

namespace CommandLang.Color

/-- The part is the run with any number of spaces on either side. -/
def Padded (run part : Text) : Prop :=
  ∃ m n, part = List.replicate m ' ' ++ (run ++ List.replicate n ' ')

/-- The text calls the function, whose name is in letters of either case, with the runs for its
    arguments, which have spaces around them; and there are blanks around the call. -/
def IsCall (name : Text) (runs : List Text) (t : Text) : Prop :=
  ∃ before word parts after,
    t = before ++ (word ++ "(" ++ (Text.join [','] parts ++ [')']) ++ after) ∧
      (∀ c ∈ before, isBlank c) ∧ (∀ c ∈ after, isBlank c) ∧ word.small = name ∧
      List.Forall₂ Padded runs parts

/-- The text is what the opening and the channels are in hexadecimal digits, in letters of either
    case and with blanks around it. -/
def IsHex (opening : Text) (channels : List Int) (t : Text) : Prop :=
  ∃ before digits after, t = before ++ (digits ++ after) ∧ (∀ c ∈ before, isBlank c) ∧
    (∀ c ∈ after, isBlank c) ∧ digits.small = opening ++ channels.flatMap writeChannel

/-! ### What stands between the blanks -/

theorem trim_small_between {before core after u : Text} (hbefore : ∀ c ∈ before, isBlank c)
    (hafter : ∀ c ∈ after, isBlank c) (hcore : core.small = u) (hne : u ≠ [])
    (hhead : ∀ c ∈ u.head?, isBlank c = false) (hlast : ∀ c ∈ u.getLast?, isBlank c = false) :
    (before ++ (core ++ after)).trim.small = u := by
  have hblank : ∀ t : Text, (∀ c ∈ t, isBlank c) → ∀ c ∈ t.small, isBlank c := by
    intro t ht c hc
    obtain ⟨x, hx, rfl⟩ := List.mem_map.1 hc
    rw [isBlank_toLower]
    exact ht x hx
  rw [← Text.trim_small, Text.small_append, Text.small_append, hcore]
  exact Text.trim_append (hblank before hbefore) (hblank after hafter) hne hhead hlast

/-! ### Calls -/

variable {run part t : Text} {n : Nat}

theorem isBlank_of_mem_replicate {k : Nat} : ∀ c ∈ List.replicate k ' ', isBlank c := by
  intro c hc
  obtain rfl := List.eq_of_mem_replicate hc
  decide

theorem Padded.channel? (h : Padded run part) (hrun : ShortRun run n) :
    Color.channel? part = if n ≤ 255 then some (n : Int) else none := by
  obtain ⟨k, l, rfl⟩ := h
  exact channel?_run isBlank_of_mem_replicate isBlank_of_mem_replicate hrun

theorem Padded.whole (h : Padded run part) (hrun : ShortRun run n) :
    Numeral.whole part = .ok n := by
  obtain ⟨k, l, rfl⟩ := h
  obtain ⟨hdigits, hshort, hvalue⟩ := shortRun_iff.1 hrun
  have hpadding : ∀ k, ∀ c ∈ List.replicate k ' ', Numeral.isPadding c := by
    intro k c hc
    obtain rfl := List.eq_of_mem_replicate hc
    decide
  have hlength : run.length ≤ Numeral.maxDigits := Nat.le_trans hshort (by decide)
  exact Numeral.whole_eq_ok_iff.2
    ⟨run, ⟨_, _, rfl, hpadding k, hpadding l, hdigits, hlength⟩, hvalue⟩

theorem Padded.digit_or_blank (h : Padded run part) (hrun : ShortRun run n) :
    ∀ c ∈ part, isDigit c ∨ isBlank c :=
  digit_or_blank_of_whole (h.whole hrun)

/-- A call is its name and its arguments, after all that does not matter is left out. -/
theorem trim_small_call {name : Text} {before word after : Text} {parts : List Text}
    (hbefore : ∀ c ∈ before, isBlank c) (hafter : ∀ c ∈ after, isBlank c)
    (hword : word.small = name) (hne : name ≠ []) (hname : ∀ c ∈ name.head?, isBlank c = false)
    (hparts : ∀ part ∈ parts, ∀ c ∈ part, isDigit c ∨ isBlank c) :
    (before ++ (word ++ "(" ++ (Text.join [','] parts ++ [')']) ++ after)).trim.small =
      name ++ "(" ++ (Text.join [','] parts ++ [')']) := by
  apply trim_small_between hbefore hafter
  · have hjoin : Text.small (Text.join [','] parts) = Text.join [','] parts :=
      Text.small_of_forall fun c hc => toLower_of_isRgbCharacter (isRgbCharacter_join hparts c hc)
    rw [Text.small_append, Text.small_append, Text.small_append, hword, hjoin]
    rfl
  · simp
  · obtain ⟨first, rest, rfl⟩ := List.exists_cons_of_ne_nil hne
    exact hname
  · intro c hc
    rw [← List.append_assoc, List.getLast?_concat] at hc
    obtain rfl := Option.some.inj hc
    decide

theorem read_of_rgb_call {x y z : Text} {r g b : Nat} (hx : ShortRun x r) (hy : ShortRun y g)
    (hz : ShortRun z b) (ht : IsCall "rgb" [x, y, z] t) :
    read t = .ok (if r ≤ 255 ∧ g ≤ 255 ∧ b ≤ 255 then some ⟨r, g, b, 255⟩ else none) := by
  obtain ⟨before, word, parts, after, rfl, hbefore, hafter, hword, hparts⟩ := ht
  obtain _ | ⟨hpx, _ | ⟨hpy, _ | ⟨hpz, ⟨⟩⟩⟩⟩ := hparts
  rw [read_of_rgb (trim_small_call hbefore hafter hword (by decide) (by decide) ?_)]
  · exact ofRgbBody_join (hpx.whole hx) (hpy.whole hy) (hpz.whole hz)
  · exact List.forall_iff_forall_mem.1
      ⟨hpx.digit_or_blank hx, hpy.digit_or_blank hy, hpz.digit_or_blank hz⟩

theorem read_of_rgba_call {x y z w : Text} {r g b : Nat} (hx : ShortRun x r) (hy : ShortRun y g)
    (hz : ShortRun z b) (hw : ShortRun w 255) (ht : IsCall "rgba" [x, y, z, w] t) :
    read t = .ok (if r ≤ 255 ∧ g ≤ 255 ∧ b ≤ 255 then some ⟨r, g, b, 255⟩ else none) := by
  obtain ⟨before, word, parts, after, rfl, hbefore, hafter, hword, hparts⟩ := ht
  obtain _ | ⟨hpx, _ | ⟨hpy, _ | ⟨hpz, _ | ⟨hpw, ⟨⟩⟩⟩⟩⟩ := hparts
  rename_i px py pz pw
  have hblank : ∀ part ∈ [px, py, pz, pw], ∀ c ∈ part, isDigit c ∨ isBlank c :=
    List.forall_iff_forall_mem.1 ⟨hpx.digit_or_blank hx, hpy.digit_or_blank hy,
      hpz.digit_or_blank hz, hpw.digit_or_blank hw⟩
  rw [read_of_rgba (trim_small_call hbefore hafter hword (by decide) (by decide) hblank),
    ofRgbaBody?, splitOn_join_parts (by simp) hblank]
  simp only [List.mapM_cons, List.mapM_nil, hpx.channel? hx, hpy.channel? hy, hpz.channel? hz,
    hpw.channel? hw]
  by_cases hr : r ≤ 255 <;> by_cases hg : g ≤ 255 <;> by_cases hb : b ≤ 255 <;> simp [hr, hg, hb]

/-! ### Hexadecimal digits -/

theorem isChannel_of_le (h : n ≤ 255) : IsChannel n :=
  ⟨Int.natCast_nonneg n, Int.ofNat_le.2 h⟩

theorem read_of_isHex {r g b : Int} (hr : IsChannel r) (hg : IsChannel g) (hb : IsChannel b)
    (ht : IsHex "#" [r, g, b] t ∨ IsHex "#ff" [r, g, b] t) :
    read t = .ok (some ⟨r, g, b, 255⟩) := by
  have hnonblank : ∀ c ∈ [r, g, b].flatMap writeChannel, isBlank c = false := by
    intro c hc
    obtain ⟨n, hn, hc⟩ := List.mem_flatMap.1 hc
    have hchannel : IsChannel n := by
      simp only [List.mem_cons, List.not_mem_nil, or_false] at hn
      rcases hn with rfl | rfl | rfl <;> assumption
    obtain ⟨d, hd, rfl⟩ := mem_writeChannel hchannel hc
    exact isBlank_digitChar d hd
  have htrim : ∀ opening : Text, opening ≠ [] → (∀ c ∈ opening, isBlank c = false) →
      IsHex opening [r, g, b] t → t.trim.small = opening ++ [r, g, b].flatMap writeChannel := by
    rintro opening hne hopening ⟨before, digits, after, rfl, hbefore, hafter, hdigits⟩
    have hall : ∀ c ∈ opening ++ [r, g, b].flatMap writeChannel, isBlank c = false :=
      List.forall_mem_append.2 ⟨hopening, hnonblank⟩
    exact trim_small_between hbefore hafter hdigits (by simp [hne])
      (fun c hc => hall c (List.mem_of_mem_head? hc))
      (fun c hc => hall c (List.mem_of_mem_getLast? hc))
  have hbytes : hexBytes? ([r, g, b].flatMap writeChannel) = some [r, g, b] := by
    simp only [List.flatMap_cons, List.flatMap_nil, hexBytes?_writeChannel_append hr,
      hexBytes?_writeChannel_append hg, hexBytes?_writeChannel_append hb, hexBytes?, Option.map_some]
  rcases ht with ht | ht
  · have hform : t.trim.small = '#' :: [r, g, b].flatMap writeChannel :=
      htrim "#" (by decide) (by decide) ht
    rw [read_of_hex hform, ofHexDigits?, hbytes]
  · have hform : t.trim.small = '#' :: (writeChannel 255 ++ [r, g, b].flatMap writeChannel) :=
      htrim "#ff" (by decide) (by decide) ht
    have hopaque : hexBytes? (writeChannel 255 ++ [r, g, b].flatMap writeChannel) =
        some [255, r, g, b] := by
      rw [hexBytes?_writeChannel_append isChannel_255, hbytes]
      rfl
    rw [read_of_hex hform, ofHexDigits?, hopaque]

/-! ### Agreement -/

/-- **The notations agree.**  Three short runs of digits make the same of a call of `rgb` and a call
    of `rgba` with 255 after them: no colour if one is worth more than 255, and else the colour that
    their values make in hexadecimal digits, with `ff` before them or without. -/
theorem notations_agree {x y z : Text} {r g b : Nat} (hx : ShortRun x r) (hy : ShortRun y g)
    (hz : ShortRun z b) {t u : Text} (ht : IsCall "rgb" [x, y, z] t)
    (hu : IsCall "rgba" [x, y, z, "255"] u) :
    read t = read u ∧
      (read t = .ok none ↔ 255 < r ∨ 255 < g ∨ 255 < b) ∧
      (r ≤ 255 ∧ g ≤ 255 ∧ b ≤ 255 →
        read t = .ok (some ⟨r, g, b, 255⟩) ∧
          ∀ v, IsHex "#" [r, g, b] v ∨ IsHex "#ff" [r, g, b] v → read t = read v) := by
  have hrgb := read_of_rgb_call hx hy hz ht
  have hrgba := read_of_rgba_call hx hy hz (shortRun_iff.2 (by decide)) hu
  refine ⟨hrgb.trans hrgba.symm, ?_, ?_⟩
  · rw [hrgb]
    constructor
    · intro h
      split at h
      · cases h
      · omega
    · intro h
      rw [if_neg (by omega)]
  · intro hle
    rw [if_pos hle] at hrgb
    refine ⟨hrgb, ?_⟩
    intro v hv
    have hhex := read_of_isHex (isChannel_of_le hle.1) (isChannel_of_le hle.2.1)
      (isChannel_of_le hle.2.2) hv
    exact hrgb.trans hhex.symm

/-- Two digits of one script and a leading zero, with spaces in one call and a tab around the other. -/
theorem notations_agree_on_fullwidth_digits :
    read "RGB(１２, 034 ,7)" = read "\trgba( １２,034,7,255)" ∧
      read "RGB(１２, 034 ,7)" = .ok (some ⟨12, 34, 7, 255⟩) ∧
      read "RGB(１２, 034 ,7)" = read "#Ff0C2207" := by
  have hx : ShortRun "１２" 12 := shortRun_iff.2 (by decide)
  have hy : ShortRun "034" 34 := shortRun_iff.2 (by decide)
  have hz : ShortRun "7" 7 := shortRun_iff.2 (by decide)
  have hrgb : IsCall "rgb" ["１２", "034", "7"] "RGB(１２, 034 ,7)" :=
    ⟨[], "RGB", ["１２", " 034 ", "7"], [], by decide, by decide, by decide, by decide,
      .cons ⟨0, 0, rfl⟩ (.cons ⟨1, 1, rfl⟩ (.cons ⟨0, 0, rfl⟩ .nil))⟩
  have hrgba : IsCall "rgba" ["１２", "034", "7", "255"] "\trgba( １２,034,7,255)" :=
    ⟨"\t", "rgba", [" １２", "034", "7", "255"], [], by decide, by decide, by decide, by decide,
      .cons ⟨1, 0, rfl⟩ (.cons ⟨0, 0, rfl⟩ (.cons ⟨0, 0, rfl⟩ (.cons ⟨0, 0, rfl⟩ .nil)))⟩
  have hhex : IsHex "#ff" [((12 : Nat) : Int), ((34 : Nat) : Int), ((7 : Nat) : Int)] "#Ff0C2207" :=
    ⟨[], "#Ff0C2207", [], by decide, by decide, by decide, by decide⟩
  obtain ⟨hagree, -, hcolor⟩ := notations_agree hx hy hz hrgb hrgba
  obtain ⟨hread, hsame⟩ := hcolor (by decide)
  exact ⟨hagree, hread, hsame _ (.inr hhex)⟩

end CommandLang.Color
