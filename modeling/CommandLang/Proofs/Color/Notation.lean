/-
  CommandLang/Proofs/Color/Notation.lean
  ======================================
  **When reading a colour fails.**

  Only the notation `rgb(…)` can fail, and it fails where the body has the right characters and three
  parts, but not every part is a number (`read_error_iff`).
-/
import CommandLang.Color.Notation
import CommandLang.Proofs.Numeral

namespace CommandLang.Color

/-! ### Functional notation -/

/-- A call is a word for the name and the opening parenthesis, the body, and the closing one. -/
theorem callBody?_eq_some_iff {name t body : Text} :
    callBody? name t = some body ↔
      ∃ word, t = word ++ (body ++ [')']) ∧ word.map Char.toLower = name ++ "(" := by
  unfold callBody? Text.afterWord? Text.beforeLast?
  constructor
  · intro h
    obtain ⟨inner, hinner, hbody⟩ := Option.bind_eq_some_iff.1 h
    split at hinner
    · rename_i hword
      cases hinner
      split at hbody
      · rename_i hlast
        cases hbody
        refine ⟨_, ?_, hword⟩
        obtain ⟨inside, hinside⟩ := List.getLast?_eq_some_iff.1 hlast
        rw [hinside, List.dropLast_concat, ← hinside, List.take_append_drop]
      · cases hbody
    · cases hinner
  · rintro ⟨word, rfl, hword⟩
    have hlen : (name ++ "(" : Text).length = word.length := by
      rw [← hword, List.length_map]
    rw [hlen, List.take_left' rfl, List.drop_left' rfl, if_pos hword]
    simp

/-- The name of a call is the text before its first parenthesis, so a text is a call of at most one
    name. -/
theorem callBody?_rgb_of_rgba {t body : Text} (h : callBody? "rgba" t = some body) :
    callBody? "rgb" t = none := by
  cases hrgb : callBody? "rgb" t with
  | none => rfl
  | some body' =>
    obtain ⟨word, rfl, hword⟩ := callBody?_eq_some_iff.1 h
    obtain ⟨word', heq, hword'⟩ := callBody?_eq_some_iff.1 hrgb
    have hlen : word.length = 5 := by simpa using congrArg List.length hword
    have hlen' : word'.length = 4 := by simpa using congrArg List.length hword'
    have htake : word.take 4 = word' := by
      have hleft := congrArg (List.take 4) heq
      rw [List.take_append_of_le_length (by omega), List.take_left' hlen'] at hleft
      exact hleft
    rw [← htake, List.map_take, hword] at hword'
    exact absurd hword' (by decide)

theorem callBody?_rgb_of_hash (digits : Text) : callBody? "rgb" ('#' :: digits) = none := by
  cases hrgb : callBody? "rgb" ('#' :: digits) with
  | none => rfl
  | some body =>
    obtain ⟨word, heq, hword⟩ := callBody?_eq_some_iff.1 hrgb
    cases word with
    | nil => cases hword
    | cons c cs =>
      obtain ⟨rfl, -⟩ := List.cons.inj heq
      rw [List.map_cons] at hword
      exact absurd (List.cons.inj hword).1 (by decide)

/-! ### Failures -/

/-- A number, padding aside. -/
def IsWhole (part : Text) : Prop := ∃ run, Numeral.WholeOf part run

/-- The text is `rgb(…)` with three parts of digits and blanks, not all of which are numbers. -/
def RefusedRgb (t : Text) : Prop :=
  ∃ body red green blue, callBody? "rgb" t.trim = some body ∧ (∀ c ∈ body, isRgbCharacter c) ∧
    body.splitOn ',' = [red, green, blue] ∧ ¬ (IsWhole red ∧ IsWhole green ∧ IsWhole blue)

theorem whole_of_isWhole {part : Text} (h : IsWhole part) : ∃ n, Numeral.whole part = .ok n := by
  obtain ⟨run, hrun⟩ := h
  exact ⟨_, Numeral.whole_eq_ok_iff.2 ⟨run, hrun, rfl⟩⟩

theorem whole_of_not_isWhole {part : Text} (h : ¬ IsWhole part) :
    ∃ e, Numeral.whole part = .error e :=
  Numeral.whole_error_iff.2 fun run hrun => h ⟨run, hrun⟩

/-- Three parts are read one after another, so reading them fails at the first that is refused. -/
theorem ofRgbBody_of_parts {body red green blue : Text} (hchars : ∀ c ∈ body, isRgbCharacter c)
    (hparts : body.splitOn ',' = [red, green, blue]) :
    ofRgbBody body = do
      let r ← Numeral.whole red
      let g ← Numeral.whole green
      let b ← Numeral.whole blue
      return if r ≤ 255 ∧ g ≤ 255 ∧ b ≤ 255 then some ⟨r, g, b, 255⟩ else none := by
  rw [ofRgbBody, if_pos (List.all_eq_true.2 hchars), hparts]

theorem ofRgbBody_error_iff {body : Text} :
    (∃ e, ofRgbBody body = .error e) ↔
      (∀ c ∈ body, isRgbCharacter c) ∧ ∃ red green blue, body.splitOn ',' = [red, green, blue] ∧
        ¬ (IsWhole red ∧ IsWhole green ∧ IsWhole blue) := by
  constructor
  · rintro ⟨e, he⟩
    have hchars : ∀ c ∈ body, isRgbCharacter c := by
      by_contra hnot
      rw [ofRgbBody, if_neg fun hall => hnot (List.all_eq_true.1 hall)] at he
      cases he
    obtain ⟨red, green, blue, hparts⟩ : ∃ red green blue, body.splitOn ',' = [red, green, blue] := by
      by_contra hnot
      rw [ofRgbBody, if_pos (List.all_eq_true.2 hchars)] at he
      split at he
      · rename_i red green blue hparts
        exact hnot ⟨red, green, blue, hparts⟩
      · cases he
    refine ⟨hchars, red, green, blue, hparts, ?_⟩
    rintro ⟨hred, hgreen, hblue⟩
    obtain ⟨r, hr⟩ := whole_of_isWhole hred
    obtain ⟨g, hg⟩ := whole_of_isWhole hgreen
    obtain ⟨b, hb⟩ := whole_of_isWhole hblue
    rw [ofRgbBody_of_parts hchars hparts, hr, hg, hb] at he
    cases he
  · rintro ⟨hchars, red, green, blue, hparts, hnot⟩
    rw [ofRgbBody_of_parts hchars hparts]
    by_cases hred : IsWhole red
    · obtain ⟨r, hr⟩ := whole_of_isWhole hred
      by_cases hgreen : IsWhole green
      · obtain ⟨g, hg⟩ := whole_of_isWhole hgreen
        obtain ⟨e, he⟩ := whole_of_not_isWhole fun hblue => hnot ⟨hred, hgreen, hblue⟩
        exact ⟨e, by rw [hr, hg, he]; rfl⟩
      · obtain ⟨e, he⟩ := whole_of_not_isWhole hgreen
        exact ⟨e, by rw [hr, he]; rfl⟩
    · obtain ⟨e, he⟩ := whole_of_not_isWhole hred
      exact ⟨e, by rw [he]; rfl⟩

/-- **Reading a colour fails exactly on an `rgb(…)` with a part that is no number.** -/
theorem read_error_iff {t : Text} : (∃ e, read t = .error e) ↔ RefusedRgb t := by
  have hrefused : RefusedRgb t ↔
      ∃ body, callBody? "rgb" t.trim = some body ∧ ∃ e, ofRgbBody body = .error e := by
    constructor
    · rintro ⟨body, red, green, blue, hbody, hchars, hparts, hnot⟩
      exact ⟨body, hbody, ofRgbBody_error_iff.2 ⟨hchars, red, green, blue, hparts, hnot⟩⟩
    · rintro ⟨body, hbody, he⟩
      obtain ⟨hchars, red, green, blue, hparts, hnot⟩ := ofRgbBody_error_iff.1 he
      exact ⟨body, red, green, blue, hbody, hchars, hparts, hnot⟩
  rw [hrefused, read]
  split
  · rename_i digits htrim
    rw [htrim, callBody?_rgb_of_hash]
    simp
  · cases hrgba : callBody? "rgba" t.trim with
    | some body =>
      rw [callBody?_rgb_of_rgba hrgba]
      simp
    | none => cases callBody? "rgb" t.trim <;> simp

end CommandLang.Color
