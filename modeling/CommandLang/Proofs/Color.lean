/-
  CommandLang/Proofs/Color.lean
  =============================
  **Colours are read back as they were written.**

  The hexadecimal form of a colour whose channels are bytes is read as that colour (`read_hex`), with
  the opacity left out or not.  No other colours are read: in every notation the channels are bytes
  (`inRange_of_read`).
-/
import CommandLang.Color.Notation
import CommandLang.Proofs.Except
import CommandLang.Proofs.Numeral
import CommandLang.Proofs.Text
import Mathlib.Data.List.Forall2

namespace CommandLang

theorem mapM_eq_some_iff {α β : Type} {f : α → Option β} {xs : List α} {ys : List β} :
    xs.mapM f = some ys ↔ List.Forall₂ (fun x y => f x = some y) xs ys := by
  induction xs generalizing ys with
  | nil => cases ys <;> simp [pure]
  | cons x xs ih =>
    simp only [List.mapM_cons, Option.bind_eq_bind, Option.bind_eq_some_iff,
      List.forall₂_cons_left_iff, ih]
    constructor
    · rintro ⟨y, hy, rest, hrest, heq⟩
      exact ⟨y, rest, hy, hrest, (Option.some.inj heq).symm⟩
    · rintro ⟨y, rest, hy, hrest, rfl⟩
      exact ⟨y, hy, rest, hrest, rfl⟩

namespace Color

/-! ### Hexadecimal digits -/

/-- A byte takes two hexadecimal digits. -/
theorem hexCode_two {n : Nat} (h : n < 256) :
    Text.hexCode 2 n = [Nat.digitChar (n / 16), Nat.digitChar (n % 16)] := by
  by_cases hsmall : n < 16
  · have hdiv : n / 16 = 0 := by omega
    have hmod : n % 16 = n := by omega
    rw [hdiv, hmod, Text.hexCode, Nat.toDigits_of_lt_base hsmall]
    rfl
  · have hdiv : n / 16 < 16 := by omega
    rw [Text.hexCode, Nat.toDigits_of_base_le (by decide) (by omega),
      Nat.toDigits_of_lt_base hdiv]
    rfl

theorem hexValue?_digitChar : ∀ d, d < 16 → hexValue? (Nat.digitChar d) = some d := by decide

theorem isBlank_digitChar : ∀ d, d < 16 → isBlank (Nat.digitChar d) = false := by decide

theorem writeChannel_of_isChannel {n : Int} (h : IsChannel n) :
    writeChannel n =
      [Nat.digitChar (n.toNat / 16), Nat.digitChar (n.toNat % 16)] := by
  obtain ⟨hlow, hhigh⟩ := h
  obtain ⟨m, rfl⟩ := Int.eq_ofNat_of_zero_le hlow
  exact hexCode_two (by omega)

/-- A written channel is read as the first byte. -/
theorem hexBytes?_writeChannel_append {n : Int} (h : IsChannel n) (t : Text) :
    hexBytes? (writeChannel n ++ t) = (hexBytes? t).map (n :: ·) := by
  have hlow := h.1
  have hhigh := h.2
  have hbyte : ((16 * (n.toNat / 16) + n.toNat % 16 : Nat) : Int) = n := by omega
  rw [writeChannel_of_isChannel h, List.cons_append, List.cons_append, List.nil_append, hexBytes?,
    hexValue?_digitChar _ (by omega), hexValue?_digitChar _ (by omega)]
  cases hexBytes? t with
  | none => rfl
  | some bytes =>
    change some (((16 * (n.toNat / 16) + n.toNat % 16 : Nat) : Int) :: bytes) = some (n :: bytes)
    rw [hbyte]

theorem mem_writeChannel {n : Int} (h : IsChannel n) {c : Char} (hc : c ∈ writeChannel n) :
    ∃ d < 16, c = Nat.digitChar d := by
  have hlow := h.1
  have hhigh := h.2
  rw [writeChannel_of_isChannel h] at hc
  rcases List.mem_cons.1 hc with rfl | hc
  · exact ⟨_, by omega, rfl⟩
  · exact ⟨_, by omega, List.mem_singleton.1 hc⟩

/-! ### Whole colours -/

theorem mem_hex {color : Color} (h : color.InRange) {c : Char} (hc : c ∈ color.hex) :
    c = '#' ∨ ∃ d < 16, c = Nat.digitChar d := by
  obtain ⟨hred, hgreen, hblue, halpha⟩ := h
  unfold hex at hc
  split at hc
  · simp only [List.mem_cons, List.mem_append] at hc
    rcases hc with hc | (hc | hc) | hc
    · exact .inl hc
    · exact .inr (mem_writeChannel hred hc)
    · exact .inr (mem_writeChannel hgreen hc)
    · exact .inr (mem_writeChannel hblue hc)
  · simp only [List.mem_cons, List.mem_append, List.cons_append] at hc
    rcases hc with hc | hc | (hc | hc) | hc
    · exact .inl hc
    · exact .inr (mem_writeChannel halpha hc)
    · exact .inr (mem_writeChannel hred hc)
    · exact .inr (mem_writeChannel hgreen hc)
    · exact .inr (mem_writeChannel hblue hc)

theorem isBlank_of_mem_hex {color : Color} (h : color.InRange) {c : Char} (hc : c ∈ color.hex) :
    isBlank c = false := by
  rcases mem_hex h hc with rfl | ⟨d, hd, rfl⟩
  · decide
  · exact isBlank_digitChar d hd

/-- What stands after the `#` of a written colour are its bytes. -/
theorem exists_digits_hex {color : Color} (h : color.InRange) :
    ∃ digits, color.hex = '#' :: digits ∧ ofHexDigits? digits = some color := by
  obtain ⟨hred, hgreen, hblue, halpha⟩ := h
  have hnil : hexBytes? [] = some [] := rfl
  have hlast := hexBytes?_writeChannel_append hblue []
  rw [List.append_nil] at hlast
  by_cases hopaque : color.alpha = 255
  · refine ⟨_, by rw [hex, if_pos hopaque], ?_⟩
    simp only [ofHexDigits?, List.append_assoc, hexBytes?_writeChannel_append hred,
      hexBytes?_writeChannel_append hgreen, hlast, hnil, Option.map_some]
    rw [← hopaque]
  · refine ⟨_, by rw [hex, if_neg hopaque, List.cons_append], ?_⟩
    simp only [ofHexDigits?, List.append_assoc, hexBytes?_writeChannel_append halpha,
      hexBytes?_writeChannel_append hred, hexBytes?_writeChannel_append hgreen, hlast, hnil,
      Option.map_some]

/-- **A written colour is read back.** -/
theorem read_hex {color : Color} (h : color.InRange) : read color.hex = .ok (some color) := by
  have htrim : color.hex.trim = color.hex :=
    Text.trim_of_forall fun c hc => isBlank_of_mem_hex h hc
  obtain ⟨digits, hhex, hdigits⟩ := exists_digits_hex h
  rw [hhex] at htrim ⊢
  simp only [read, htrim, hdigits]

/-! ### Colours that were read -/

theorem hexValue?_lt {c : Char} {n : Nat} (h : hexValue? c = some n) : n < 16 := by
  have hcode : ∀ a b : Char, a ≤ b ↔ a.toNat ≤ b.toNat := fun _ _ => UInt32.le_iff_toNat_le
  simp only [hexValue?, hcode] at h
  split at h
  · rename_i hrange
    have hn := Option.some.inj h
    have h0 : '0'.toNat = 48 := rfl
    have h9 : '9'.toNat = 57 := rfl
    omega
  · split at h
    · rename_i hrange
      have hn := Option.some.inj h
      have ha : 'a'.toNat = 97 := rfl
      have hf : 'f'.toNat = 102 := rfl
      omega
    · split at h
      · rename_i hrange
        have hn := Option.some.inj h
        have ha : 'A'.toNat = 65 := rfl
        have hf : 'F'.toNat = 70 := rfl
        omega
      · cases h

theorem isChannel_of_hexBytes? {t : Text} {bytes : List Int} (h : hexBytes? t = some bytes) :
    ∀ n ∈ bytes, IsChannel n := by
  fun_induction hexBytes? t generalizing bytes with
  | case1 =>
    cases h
    simp
  | case2 high low t ih =>
    simp only [Option.bind_eq_bind, Option.bind_eq_some_iff] at h
    obtain ⟨a, ha, b, hb, rest, hrest, heq⟩ := h
    cases heq
    have hhigh := hexValue?_lt ha
    have hlow := hexValue?_lt hb
    intro n hn
    rcases List.mem_cons.1 hn with rfl | hn
    · constructor <;> omega
    · exact ih hrest n hn
  | case3 => cases h

theorem isChannel_of_channel? {part : Text} {n : Int} (h : channel? part = some n) :
    IsChannel n := by
  simp only [channel?] at h
  split at h
  · rename_i hpart
    cases h
    constructor <;> omega
  · cases h

theorem isChannel_of_mapM_channel? {parts : List Text} {channels : List Int}
    (h : parts.mapM channel? = some channels) : ∀ n ∈ channels, IsChannel n := by
  have hparts := mapM_eq_some_iff.1 h
  clear h
  induction hparts with
  | nil => simp
  | cons hpart _ ih =>
    intro n hn
    rcases List.mem_cons.1 hn with rfl | hn
    · exact isChannel_of_channel? hpart
    · exact ih n hn

theorem isChannel_255 : IsChannel 255 := by decide

theorem inRange_of_ofHexDigits? {digits : Text} {color : Color}
    (h : ofHexDigits? digits = some color) : color.InRange := by
  unfold ofHexDigits? at h
  split at h
  · rename_i red green blue hbytes
    cases h
    have hchannel := isChannel_of_hexBytes? hbytes
    exact ⟨hchannel red (by simp), hchannel green (by simp), hchannel blue (by simp), isChannel_255⟩
  · rename_i alpha red green blue hbytes
    cases h
    have hchannel := isChannel_of_hexBytes? hbytes
    exact ⟨hchannel red (by simp), hchannel green (by simp), hchannel blue (by simp),
      hchannel alpha (by simp)⟩
  · cases h

theorem inRange_of_ofRgbaBody? {body : Text} {color : Color}
    (h : ofRgbaBody? body = some color) : color.InRange := by
  unfold ofRgbaBody? at h
  split at h
  · rename_i red green blue alpha hparts
    cases h
    have hchannel := isChannel_of_mapM_channel? hparts
    exact ⟨hchannel red (by simp), hchannel green (by simp), hchannel blue (by simp),
      hchannel alpha (by simp)⟩
  · cases h

theorem inRange_of_ofRgbBody {body : Text} {color : Color}
    (h : ofRgbBody body = .ok (some color)) : color.InRange := by
  unfold ofRgbBody at h
  split at h
  · split at h
    · obtain ⟨r, -, h⟩ := bind_eq_ok_iff.1 h
      obtain ⟨g, -, h⟩ := bind_eq_ok_iff.1 h
      obtain ⟨b, -, h⟩ := bind_eq_ok_iff.1 h
      have hsome := Except.ok.inj h
      split at hsome
      · rename_i hle
        obtain ⟨hr, hg, hb⟩ := hle
        cases hsome
        exact ⟨⟨Int.natCast_nonneg r, Int.ofNat_le.2 hr⟩, ⟨Int.natCast_nonneg g, Int.ofNat_le.2 hg⟩,
          ⟨Int.natCast_nonneg b, Int.ofNat_le.2 hb⟩, isChannel_255⟩
      · cases hsome
    · cases h
  · cases h

/-- **The channels of a colour that was read are bytes**, whatever its notation. -/
theorem inRange_of_read {t : Text} {color : Color} (h : read t = .ok (some color)) :
    color.InRange := by
  rw [read] at h
  split at h
  · exact inRange_of_ofHexDigits? (Except.ok.inj h)
  · split at h
    · exact inRange_of_ofRgbaBody? (Except.ok.inj h)
    · split at h
      · exact inRange_of_ofRgbBody h
      · cases h

end Color

end CommandLang
