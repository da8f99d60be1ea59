/-
  CommandLang/Proofs/Color/Grammar.lean
  =====================================
  **The grammar of colours.**

  The notations are stated here for texts in small letters, without the order in which the reader
  tries them (`Given`): pairs of hexadecimal digits after `#`, parts of `rgba` with one to three
  digits between blanks, and parts of `rgb` that are whole numbers.  Apart from them stands the call
  of `rgb` with three parts of digits and blanks that are not all numbers (`BrokenCall`).

  Each reader of a part, of digits and of a body takes what the grammar says
  (`ofHexDigits?_eq_some_iff`, `ofRgbaBody?_eq_some_iff`, `ofRgbBody_eq_some_iff`).
-/
import CommandLang.Proofs.Color
import CommandLang.Proofs.Color.Notation
import CommandLang.Proofs.Numeral.Value

namespace CommandLang.Color

/-! ### The grammar of colours -/

/-- Two hexadecimal digits and the byte that they stand for. -/
inductive HexPair : Text → Int → Prop
  | mk {high low : Nat} (hhigh : high < 16) (hlow : low < 16) :
      HexPair [Nat.digitChar high, Nat.digitChar low] (16 * high + low : Nat)

/-- One to three digits and what they are worth. -/
structure ShortRun (run : Text) (n : Nat) : Prop where
  value : Numeral.HasValue run n
  nonempty : run ≠ []
  short : run.length ≤ 3

/-- A part of `rgba`: a short run between blanks, worth at most 255. -/
def ShortPart (part : Text) (channel : Int) : Prop :=
  ∃ before run after n, part = before ++ (run ++ after) ∧ (∀ c ∈ before, isBlank c) ∧
    (∀ c ∈ after, isBlank c) ∧ ShortRun run n ∧ n ≤ 255 ∧ channel = n

/-- A part of `rgb`: a whole number, worth at most 255. -/
def WholePart (part : Text) (channel : Int) : Prop :=
  ∃ run n, Numeral.WholeOf part run ∧ Numeral.HasValue run n ∧ n ≤ 255 ∧ channel = n

/-- The text, in small letters and without blanks around it, gives the colour. -/
inductive Given (color : Color) : Text → Prop
  | rgbHex {r g b : Text} (hr : HexPair r color.red) (hg : HexPair g color.green)
      (hb : HexPair b color.blue) (halpha : color.alpha = 255) : Given color ('#' :: [r, g, b].flatten)
  | argbHex {a r g b : Text} (ha : HexPair a color.alpha) (hr : HexPair r color.red)
      (hg : HexPair g color.green) (hb : HexPair b color.blue) :
      Given color ('#' :: [a, r, g, b].flatten)
  | rgba {r g b a : Text} (hr : ShortPart r color.red) (hg : ShortPart g color.green)
      (hb : ShortPart b color.blue) (ha : ShortPart a color.alpha) :
      Given color ("rgba" ++ "(" ++ (Text.join [','] [r, g, b, a] ++ [')']))
  | rgb {r g b : Text} (hr : WholePart r color.red) (hg : WholePart g color.green)
      (hb : WholePart b color.blue) (halpha : color.alpha = 255) :
      Given color ("rgb" ++ "(" ++ (Text.join [','] [r, g, b] ++ [')']))

/-- The text is a call of `rgb` with three parts of digits and blanks, one of which is not a whole
    number, or one of too many digits. -/
def BrokenCall (t : Text) : Prop :=
  ∃ r g b, t = "rgb" ++ "(" ++ (Text.join [','] [r, g, b] ++ [')']) ∧
    (∀ part ∈ [r, g, b], ∀ c ∈ part, isDigit c ∨ isBlank c) ∧ ∃ part ∈ [r, g, b], ¬ IsWhole part

/-! ### Hexadecimal digits -/

theorem toNat_digitChar {d : Nat} (h : d < 16) :
    (Nat.digitChar d).toNat = if d < 10 then 48 + d else 87 + d := by
  revert d
  decide

theorem hexValue?_eq_some_iff {c : Char} (hc : c.toLower = c) {d : Nat} :
    hexValue? c = some d ↔ d < 16 ∧ c = Nat.digitChar d := by
  constructor
  · intro h
    have hd := hexValue?_lt h
    refine ⟨hd, Char.toNat_inj.1 ?_⟩
    have hcode : ∀ a b : Char, a ≤ b ↔ a.toNat ≤ b.toNat := fun _ _ => UInt32.le_iff_toNat_le
    simp only [hexValue?, hcode, Char.reduceToNat] at h
    rw [toNat_digitChar hd]
    split at h
    · obtain rfl := Option.some.inj h
      rw [if_pos (by omega)]
      omega
    · split at h
      · obtain rfl := Option.some.inj h
        rw [if_neg (by omega)]
        omega
      · split at h
        · -- a capital has another small form
          have hsmall := toNat_toLower_of_capital (c := c) (by omega)
          rw [hc] at hsmall
          omega
        · cases h
  · rintro ⟨hd, rfl⟩
    exact hexValue?_digitChar d hd

theorem hexBytes?_eq_some_iff {t : Text} (ht : ∀ c ∈ t, c.toLower = c) {bytes : List Int} :
    hexBytes? t = some bytes ↔ ∃ pairs, t = pairs.flatten ∧ List.Forall₂ HexPair pairs bytes := by
  constructor
  · intro h
    fun_induction hexBytes? t generalizing bytes with
    | case1 =>
      cases h
      exact ⟨[], rfl, .nil⟩
    | case2 high low t ih =>
      obtain ⟨hhigh, hlow, hsmall⟩ := by simpa only [List.forall_mem_cons] using ht
      simp only [Option.bind_eq_bind, Option.bind_eq_some_iff] at h
      obtain ⟨a, ha, b, hb, rest, hrest, heq⟩ := h
      cases heq
      obtain ⟨ha16, rfl⟩ := (hexValue?_eq_some_iff hhigh).1 ha
      obtain ⟨hb16, rfl⟩ := (hexValue?_eq_some_iff hlow).1 hb
      obtain ⟨pairs, rfl, hpairs⟩ := ih hsmall hrest
      exact ⟨_ :: pairs, rfl, .cons (.mk ha16 hb16) hpairs⟩
    | case3 => cases h
  · rintro ⟨pairs, rfl, hpairs⟩
    clear ht
    induction hpairs with
    | nil => rfl
    | cons hpair _ ih =>
      obtain ⟨hhigh, hlow⟩ := hpair
      simp only [List.flatten_cons, List.cons_append, List.nil_append, hexBytes?,
        hexValue?_digitChar _ hhigh, hexValue?_digitChar _ hlow, ih]
      rfl

theorem ofHexDigits?_eq_some_iff {digits : Text} (hsmall : ∀ c ∈ digits, c.toLower = c)
    {color : Color} :
    ofHexDigits? digits = some color ↔
      (∃ r g b, digits = [r, g, b].flatten ∧ HexPair r color.red ∧ HexPair g color.green ∧
        HexPair b color.blue ∧ color.alpha = 255) ∨
      ∃ a r g b, digits = [a, r, g, b].flatten ∧ HexPair a color.alpha ∧ HexPair r color.red ∧
        HexPair g color.green ∧ HexPair b color.blue := by
  constructor
  · intro h
    unfold ofHexDigits? at h
    split at h
    · rename_i red green blue hbytes
      cases h
      obtain ⟨pairs, rfl, hpairs⟩ := (hexBytes?_eq_some_iff hsmall).1 hbytes
      obtain _ | ⟨hr, _ | ⟨hg, _ | ⟨hb, ⟨⟩⟩⟩⟩ := hpairs
      exact .inl ⟨_, _, _, rfl, hr, hg, hb, rfl⟩
    · rename_i alpha red green blue hbytes
      cases h
      obtain ⟨pairs, rfl, hpairs⟩ := (hexBytes?_eq_some_iff hsmall).1 hbytes
      obtain _ | ⟨ha, _ | ⟨hr, _ | ⟨hg, _ | ⟨hb, ⟨⟩⟩⟩⟩⟩ := hpairs
      exact .inr ⟨_, _, _, _, rfl, ha, hr, hg, hb⟩
    · cases h
  · rintro (⟨r, g, b, hdigits, hr, hg, hb, halpha⟩ | ⟨a, r, g, b, hdigits, ha, hr, hg, hb⟩)
    · have hbytes := (hexBytes?_eq_some_iff hsmall).2
        ⟨_, hdigits, .cons hr (.cons hg (.cons hb .nil))⟩
      rw [ofHexDigits?, hbytes, ← halpha]
    · have hbytes := (hexBytes?_eq_some_iff hsmall).2
        ⟨_, hdigits, .cons ha (.cons hr (.cons hg (.cons hb .nil)))⟩
      rw [ofHexDigits?, hbytes]

/-! ### The parts of a call -/

theorem ShortRun.isRun {run : Text} {n : Nat} (h : ShortRun run n) : Numeral.IsRun run :=
  ⟨h.nonempty, (Numeral.hasValue_iff.1 h.value).1⟩

theorem shortRun_iff {run : Text} {n : Nat} :
    ShortRun run n ↔ Numeral.IsRun run ∧ run.length ≤ 3 ∧ Numeral.ofDigits run = n := by
  constructor
  · intro h
    exact ⟨h.isRun, h.short, (Numeral.hasValue_iff.1 h.value).2⟩
  · rintro ⟨hrun, hshort, hvalue⟩
    exact ⟨Numeral.hasValue_iff.2 ⟨hrun.2, hvalue⟩, hrun.1, hshort⟩

theorem digit_or_blank_between {before run after : Text} (hbefore : ∀ c ∈ before, isBlank c)
    (hafter : ∀ c ∈ after, isBlank c) (hrun : ∀ c ∈ run, isDigit c) :
    ∀ c ∈ before ++ (run ++ after), isDigit c ∨ isBlank c := by
  intro c hc
  rcases List.mem_append.1 hc with hc | hc
  · exact .inr (hbefore c hc)
  · rcases List.mem_append.1 hc with hc | hc
    · exact .inl (hrun c hc)
    · exact .inr (hafter c hc)

theorem trim_run {before run after : Text} (hbefore : ∀ c ∈ before, isBlank c)
    (hafter : ∀ c ∈ after, isBlank c) (hrun : Numeral.IsRun run) :
    (before ++ (run ++ after)).trim = run := by
  apply Text.trim_append hbefore hafter hrun.1
  · intro c hc
    exact isBlank_of_isDigit (hrun.2 c (List.mem_of_mem_head? hc))
  · intro c hc
    exact isBlank_of_isDigit (hrun.2 c (List.mem_of_mem_getLast? hc))

theorem channel?_run {before run after : Text} {n : Nat} (hbefore : ∀ c ∈ before, isBlank c)
    (hafter : ∀ c ∈ after, isBlank c) (hrun : ShortRun run n) :
    channel? (before ++ (run ++ after)) = if n ≤ 255 then some (n : Int) else none := by
  obtain ⟨hdigits, hshort, rfl⟩ := shortRun_iff.1 hrun
  have hlength : 1 ≤ run.length := List.length_pos_iff.2 hdigits.1
  simp only [channel?, trim_run hbefore hafter hdigits, hlength, hshort,
    List.all_eq_true.2 hdigits.2, true_and]

theorem channel?_eq_some_iff {part : Text} {channel : Int} :
    channel? part = some channel ↔ ShortPart part channel := by
  constructor
  · intro h
    simp only [channel?] at h
    split at h
    · rename_i hrun
      cases h
      obtain ⟨hlength, hshort, hdigits, hvalue⟩ := hrun
      obtain ⟨before, after, hpart, hbefore, hafter⟩ := Text.exists_blanks_trim part
      refine ⟨before, part.trim, after, _, hpart, hbefore, hafter, ?_, hvalue, rfl⟩
      exact shortRun_iff.2
        ⟨⟨List.length_pos_iff.1 hlength, List.all_eq_true.1 hdigits⟩, hshort, rfl⟩
    · cases h
  · rintro ⟨before, run, after, n, rfl, hbefore, hafter, hrun, hle, rfl⟩
    rw [channel?_run hbefore hafter hrun, if_pos hle]

theorem ShortPart.digit_or_blank {part : Text} {channel : Int} (h : ShortPart part channel) :
    ∀ c ∈ part, isDigit c ∨ isBlank c := by
  obtain ⟨before, run, after, n, rfl, hbefore, hafter, hrun, -, -⟩ := h
  exact digit_or_blank_between hbefore hafter hrun.isRun.2

theorem digit_or_blank_of_whole {part : Text} {n : Nat} (h : Numeral.whole part = .ok n) :
    ∀ c ∈ part, isDigit c ∨ isBlank c := by
  obtain ⟨run, ⟨before, after, rfl, hbefore, hafter, hrun, -⟩, -⟩ := Numeral.whole_eq_ok_iff.1 h
  have hblank : ∀ c, Numeral.isPadding c → isBlank c := by
    intro c hc
    exact (Bool.and_eq_true_iff.1 hc).1
  exact digit_or_blank_between (fun c hc => hblank c (hbefore c hc))
    (fun c hc => hblank c (hafter c hc)) hrun.2

theorem wholePart_iff {part : Text} {channel : Int} :
    WholePart part channel ↔ ∃ n : Nat, Numeral.whole part = .ok n ∧ n ≤ 255 ∧ channel = n := by
  constructor
  · rintro ⟨run, n, hrun, hvalue, hle, heq⟩
    exact ⟨n, Numeral.whole_eq_ok_iff.2 ⟨run, hrun, (Numeral.hasValue_iff.1 hvalue).2⟩, hle, heq⟩
  · rintro ⟨n, hwhole, hle, heq⟩
    obtain ⟨run, hrun, rfl⟩ := Numeral.whole_eq_ok_iff.1 hwhole
    have hdigits : Numeral.IsRun run := by
      obtain ⟨_, _, -, -, -, hdigits, -⟩ := hrun
      exact hdigits
    exact ⟨run, _, hrun, hdigits.hasValue, hle, heq⟩

/-- Parts of digits and blanks have no comma in them, so they are found again. -/
theorem splitOn_join_parts {parts : List Text} (hne : parts ≠ [])
    (h : ∀ part ∈ parts, ∀ c ∈ part, isDigit c ∨ isBlank c) :
    Text.splitOn ',' (Text.join [','] parts) = parts := by
  apply Text.splitOn_join hne
  intro part hpart hcomma
  have hnot : ¬ (isDigit ',' ∨ isBlank ',') := by decide
  exact hnot (h part hpart ',' hcomma)

theorem isRgbCharacter_join {parts : List Text}
    (h : ∀ part ∈ parts, ∀ c ∈ part, isDigit c ∨ isBlank c) :
    ∀ c ∈ Text.join [','] parts, isRgbCharacter c := by
  intro c hc
  simp only [isRgbCharacter, Bool.or_eq_true, beq_iff_eq]
  rcases Text.mem_join hc with hcomma | ⟨part, hpart, hc⟩
  · exact .inr (List.mem_singleton.1 hcomma)
  · exact .inl (h part hpart c hc)

theorem ofRgbaBody?_eq_some_iff {body : Text} {color : Color} :
    ofRgbaBody? body = some color ↔
      ∃ r g b a, body = Text.join [','] [r, g, b, a] ∧ ShortPart r color.red ∧
        ShortPart g color.green ∧ ShortPart b color.blue ∧ ShortPart a color.alpha := by
  constructor
  · intro h
    unfold ofRgbaBody? at h
    split at h
    · rename_i red green blue alpha hparts
      cases h
      have hbody := (Text.join_splitOn ',' body).symm
      have hchannels := mapM_eq_some_iff.1 hparts
      generalize Text.splitOn ',' body = parts at hbody hchannels
      obtain _ | ⟨hr, _ | ⟨hg, _ | ⟨hb, _ | ⟨ha, ⟨⟩⟩⟩⟩⟩ := hchannels
      exact ⟨_, _, _, _, hbody, channel?_eq_some_iff.1 hr, channel?_eq_some_iff.1 hg,
        channel?_eq_some_iff.1 hb, channel?_eq_some_iff.1 ha⟩
    · cases h
  · rintro ⟨r, g, b, a, rfl, hr, hg, hb, ha⟩
    have hparts : Text.splitOn ',' (Text.join [','] [r, g, b, a]) = [r, g, b, a] := by
      apply splitOn_join_parts (by simp)
      exact List.forall_iff_forall_mem.1
        ⟨hr.digit_or_blank, hg.digit_or_blank, hb.digit_or_blank, ha.digit_or_blank⟩
    have hchannels := mapM_eq_some_iff.2 (List.Forall₂.cons (channel?_eq_some_iff.2 hr)
      (.cons (channel?_eq_some_iff.2 hg) (.cons (channel?_eq_some_iff.2 hb)
        (.cons (channel?_eq_some_iff.2 ha) .nil))))
    rw [ofRgbaBody?, hparts, hchannels]

theorem ofRgbBody_join {r g b : Text} {red green blue : Nat} (hr : Numeral.whole r = .ok red)
    (hg : Numeral.whole g = .ok green) (hb : Numeral.whole b = .ok blue) :
    ofRgbBody (Text.join [','] [r, g, b]) =
      .ok (if red ≤ 255 ∧ green ≤ 255 ∧ blue ≤ 255 then some ⟨red, green, blue, 255⟩ else none) := by
  have hparts : ∀ part ∈ [r, g, b], ∀ c ∈ part, isDigit c ∨ isBlank c :=
    List.forall_iff_forall_mem.1
      ⟨digit_or_blank_of_whole hr, digit_or_blank_of_whole hg, digit_or_blank_of_whole hb⟩
  rw [ofRgbBody_of_parts (isRgbCharacter_join hparts) (splitOn_join_parts (by simp) hparts), hr, hg,
    hb]
  rfl

theorem ofRgbBody_eq_some_iff {body : Text} {color : Color} :
    ofRgbBody body = .ok (some color) ↔
      ∃ r g b, body = Text.join [','] [r, g, b] ∧ WholePart r color.red ∧ WholePart g color.green ∧
        WholePart b color.blue ∧ color.alpha = 255 := by
  simp only [wholePart_iff]
  constructor
  · intro h
    unfold ofRgbBody at h
    split at h
    · split at h
      · rename_i r g b hparts
        obtain ⟨red, hr, h⟩ := bind_eq_ok_iff.1 h
        obtain ⟨green, hg, h⟩ := bind_eq_ok_iff.1 h
        obtain ⟨blue, hb, h⟩ := bind_eq_ok_iff.1 h
        have hsome := Except.ok.inj h
        split at hsome
        · rename_i hle
          cases hsome
          refine ⟨r, g, b, ?_, ⟨red, hr, hle.1, rfl⟩, ⟨green, hg, hle.2.1, rfl⟩,
            ⟨blue, hb, hle.2.2, rfl⟩, rfl⟩
          rw [← hparts, Text.join_splitOn]
        · cases hsome
      · cases h
    · cases h
  · rintro ⟨r, g, b, rfl, ⟨red, hr, hredle, hred⟩, ⟨green, hg, hgreenle, hgreen⟩,
      ⟨blue, hb, hbluele, hblue⟩, halpha⟩
    rw [ofRgbBody_join hr hg hb, if_pos ⟨hredle, hgreenle, hbluele⟩, ← hred, ← hgreen, ← hblue,
      ← halpha]

theorem exists_ofRgbBody_error_iff {body : Text} :
    (∃ e, ofRgbBody body = .error e) ↔
      ∃ r g b, body = Text.join [','] [r, g, b] ∧
        (∀ part ∈ [r, g, b], ∀ c ∈ part, isDigit c ∨ isBlank c) ∧
        ∃ part ∈ [r, g, b], ¬ IsWhole part := by
  rw [ofRgbBody_error_iff]
  constructor
  · rintro ⟨hchars, r, g, b, hparts, hnot⟩
    refine ⟨r, g, b, by rw [← hparts, Text.join_splitOn], ?_, ?_⟩
    · rw [← hparts]
      intro part hpart c hc
      obtain ⟨hmem, hcomma⟩ := Text.mem_of_mem_splitOn hpart hc
      simpa [isRgbCharacter, hcomma] using hchars c hmem
    · by_contra hall
      simp only [List.mem_cons, List.not_mem_nil, or_false, not_exists, not_and, not_not] at hall
      exact hnot ⟨hall r (.inl rfl), hall g (.inr (.inl rfl)), hall b (.inr (.inr rfl))⟩
  · rintro ⟨r, g, b, rfl, hparts, part, hpart, hnot⟩
    refine ⟨isRgbCharacter_join hparts, r, g, b, splitOn_join_parts (by simp) hparts, ?_⟩
    rintro ⟨hr, hg, hb⟩
    simp only [List.mem_cons, List.not_mem_nil, or_false] at hpart
    rcases hpart with rfl | rfl | rfl
    · exact hnot hr
    · exact hnot hg
    · exact hnot hb

end CommandLang.Color
