/-
  CommandLang/Text/Basic.lean
  ===========================
  **Text and the ways it is cut.**

  A text is a list of Unicode scalar values, so that lengths and positions count code points and a
  cut is an ordinary list operation.  Everything here treats characters as opaque; what the
  characters mean (blanks, digits, letter case) is the subject of the modules beside this one.

    * `dropSpaces`   leaves out leading spaces (U+0020 only);
    * `cutAt`        parts a text at the first occurrence of a character;
    * `splitOn`      parts it at every occurrence, and `join` undoes that (`join_splitOn`).
-/

namespace CommandLang

/-- A text: Unicode scalar values in reading order. -/
abbrev Text := List Char

instance : Coe String Text := ⟨String.toList⟩

namespace Text

/-! ### Leading spaces -/

/-- The text without its leading spaces.  Only U+0020 is a space here; other blanks stay. -/
def dropSpaces (t : Text) : Text := t.dropWhile (· == ' ')

@[simp] theorem dropSpaces_nil : dropSpaces [] = [] := rfl

@[simp] theorem dropSpaces_space (t : Text) : dropSpaces (' ' :: t) = dropSpaces t := rfl

theorem dropSpaces_cons_of_ne {c : Char} (h : c ≠ ' ') (t : Text) :
    dropSpaces (c :: t) = c :: t := by
  simp [dropSpaces, h]

theorem dropSpaces_suffix (t : Text) : t.dropSpaces <:+ t := List.dropWhile_suffix _

theorem length_dropSpaces_le (t : Text) : t.dropSpaces.length ≤ t.length :=
  (dropSpaces_suffix t).length_le

theorem dropSpaces_ne_space_cons (t r : Text) : t.dropSpaces ≠ ' ' :: r := by
  induction t with
  | nil => simp
  | cons c t ih =>
    by_cases h : c = ' '
    · subst h; simpa using ih
    · rw [dropSpaces_cons_of_ne h]
      intro he
      exact h (List.cons.inj he).1

/-! ### Cutting at one character -/

/-- The part before the first `c` and the part after it; without a `c` all of the text comes
    before it. -/
def cutAt (c : Char) (t : Text) : Text × Text :=
  (t.takeWhile (· ≠ c), (t.dropWhile (· ≠ c)).drop 1)

theorem cutAt_snd_suffix (c : Char) (t : Text) : (cutAt c t).2 <:+ t :=
  (List.drop_suffix 1 _).trans (List.dropWhile_suffix _)

/-- A cut makes progress: of a text that is not empty, less than all is left. -/
theorem length_cutAt_snd_lt (c : Char) {t : Text} (h : t ≠ []) :
    (cutAt c t).2.length < t.length := by
  have hle : (t.dropWhile (· ≠ c)).length ≤ t.length := (List.dropWhile_suffix _).length_le
  have hpos : 0 < t.length := List.length_pos_iff.2 h
  simp only [cutAt, List.length_drop]
  omega

/-! ### Splitting at every occurrence -/

/-- The pieces between the occurrences of `c`: one more than there are occurrences. -/
def splitOn (c : Char) : Text → List Text
  | [] => [[]]
  | x :: t =>
    if x = c then [] :: splitOn c t
    else match splitOn c t with
      | [] => [[x]]
      | piece :: pieces => (x :: piece) :: pieces

/-- The pieces one after another, with `sep` between them. -/
def join (sep : Text) (pieces : List Text) : Text := sep.intercalate pieces

theorem splitOn_ne_nil (c : Char) (t : Text) : splitOn c t ≠ [] := by
  cases t with
  | nil => simp [splitOn]
  | cons x t =>
    unfold splitOn
    split
    · simp
    · split <;> simp

/-- Joining the pieces with the character they were split at gives the text back. -/
theorem join_splitOn (c : Char) (t : Text) : join [c] (splitOn c t) = t := by
  induction t with
  | nil => rfl
  | cons x t ih =>
    have hne := splitOn_ne_nil c t
    unfold splitOn
    split
    · rename_i hx
      subst hx
      generalize splitOn x t = pieces at ih hne
      cases pieces with
      | nil => exact absurd rfl hne
      | cons piece pieces => simpa [join, List.intercalate, List.intersperse] using ih
    · generalize splitOn c t = pieces at ih hne
      cases pieces with
      | nil => exact absurd rfl hne
      | cons piece pieces =>
        cases pieces <;> simpa [join, List.intercalate, List.intersperse] using ih

/-! ### Words and ends -/

/-- What follows `word` in a text that begins with it, ASCII letters of the text being read as
    small letters. -/
def afterWord? (word t : Text) : Option Text :=
  if (t.take word.length).map Char.toLower = word then some (t.drop word.length) else none

/-- What comes before `c` in a text that ends with it. -/
def beforeLast? (c : Char) (t : Text) : Option Text :=
  if t.getLast? = some c then some t.dropLast else none

end Text

end CommandLang
