/-
  CommandLang/Proofs/Scan/Step.lean
  =================================
  **What one step of a scan reads.**

  A step comes down to three questions: which spec the text opens with (`openedBy?`), where the
  value of that spec begins, and what is read there (`readAt`).  The first spec that the text opens
  with counts; if there is none, the default argument is read (`step_eq`).

  A text that begins with a word and then with `=`, `:` or a space opens with no other name than
  that word, letter case aside (`opened?_of_fold_ne`).
-/
import CommandLang.Proofs.Text
import CommandLang.Scan

namespace CommandLang.Scan

variable {specs : List Spec} {s : Spec} {t : Text}

/-! ### A scan, one step at a time -/

theorem scan_of_blank (h : t.dropSpaces = []) : scan specs t = .done := by
  unfold scan
  split
  · rfl
  · rename_i heq
    rw [h] at heq
    cases heq

theorem scan_of_fault {f : Fault} (ht : t.dropSpaces ≠ [])
    (h : step specs t.dropSpaces = .error f) : scan specs t = .broken f := by
  unfold scan
  split
  · rename_i heq
    exact absurd heq ht
  · rename_i heq
    split
    · rename_i hs
      rw [← heq, h] at hs
      cases hs
      rfl
    · rename_i hs
      rw [← heq, h] at hs
      cases hs

theorem scan_of_step {found : Step} (ht : t.dropSpaces ≠ [])
    (h : step specs t.dropSpaces = .ok found) :
    scan specs t = (scan specs found.rest).cons found.reading := by
  rw [scan]
  split
  · rename_i heq
    exact absurd heq ht
  · rename_i heq
    split
    · rename_i hs
      rw [← heq, h] at hs
      cases hs
    · rename_i hs
      rw [← heq, h] at hs
      cases hs
      rfl

/-- Spaces before the text make no difference. -/
theorem scan_congr {u : Text} (h : t.dropSpaces = u.dropSpaces) : scan specs t = scan specs u := by
  by_cases ht : t.dropSpaces = []
  · rw [scan_of_blank ht, scan_of_blank (h ▸ ht)]
  · have hu : u.dropSpaces ≠ [] := h ▸ ht
    cases hs : step specs t.dropSpaces with
    | error f => rw [scan_of_fault ht hs, scan_of_fault hu (h ▸ hs)]
    | ok found => rw [scan_of_step ht hs, scan_of_step hu (h ▸ hs)]

theorem scan_space (specs : List Spec) (t : Text) : scan specs (' ' :: t) = scan specs t :=
  scan_congr (Text.dropSpaces_space t)

theorem scan_dropSpaces (specs : List Spec) (t : Text) :
    scan specs t.dropSpaces = scan specs t := scan_congr (Text.dropSpaces_dropSpaces t)

/-! ### Values -/

/-- A value is read from the text up to the next space, and what comes after the space is left. -/
theorem valueStep_eq (name : Text) (kind : Kind) (start : Text) :
    valueStep name kind start =
      (Reading.ofValue name kind (start.cutAt ' ').1).map fun r => ⟨r, (start.cutAt ' ').2⟩ := by
  rw [valueStep]
  cases hr : Reading.ofValue name kind (start.cutAt ' ').1 with
  | error f => simp [hr, bind, Except.bind, Except.map]
  | ok r => simp [hr, bind, Except.bind, pure, Except.pure, Except.map]

/-! ### The spec that a text opens with -/

/-- Where the value of a spec begins in a text that gives the spec by name.  A flag may stand at the
    very end of the text, where its value is empty. -/
def opened? (s : Spec) (t : Text) : Option Text :=
  if t.opensWith s.name then
    match t.drop s.name.length with
    | [] => if s.kind = .bool then some [] else none
    | after => valueStart? after
  else none

theorem opened?_of_drop_eq_nil (hopen : t.opensWith s.name) (hdrop : t.drop s.name.length = []) :
    opened? s t = if s.kind = .bool then some [] else none := by
  simp only [opened?, hopen, if_true, hdrop]

theorem opened?_of_drop_eq_cons {c : Char} {after : Text} (hopen : t.opensWith s.name)
    (hdrop : t.drop s.name.length = c :: after) : opened? s t = valueStart? (c :: after) := by
  simp only [opened?, hopen, if_true, hdrop]

/-- The first spec that a text opens with, and where its value begins. -/
def openedBy? (specs : List Spec) (t : Text) : Option (Spec × Text) :=
  specs.findSome? fun s => (opened? s t).map (s, ·)

theorem opened?_of_openedBy? {start : Text} (h : openedBy? specs t = some (s, start)) :
    s ∈ specs ∧ opened? s t = some start := by
  obtain ⟨s', hs', hfound⟩ := List.exists_of_findSome?_eq_some h
  obtain ⟨start', hstart, heq⟩ := Option.map_eq_some_iff.1 hfound
  obtain ⟨rfl, rfl⟩ := Prod.mk.inj heq
  exact ⟨hs', hstart⟩

/-- Reads the value of a spec that is given by name. -/
def readAt (s : Spec) (start : Text) : Except Fault Step :=
  if s.kind = .bool then .ok (flagStep s.name start) else valueStep s.name s.kind start

/-- An empty word sets a flag, so that a flag at the end of a text is like any other. -/
theorem flagStep_nil (name : Text) : flagStep name [] = ⟨.argument ⟨name, .bool true⟩, []⟩ := by
  rfl

theorem namedStep?_eq (s : Spec) (t : Text) :
    namedStep? s t =
      match opened? s t with
      | none => .ok none
      | some start => (readAt s start).map some := by
  unfold namedStep? opened? readAt
  by_cases hopen : t.opensWith s.name
  · rw [if_pos hopen, if_pos hopen]
    cases t.drop s.name.length with
    | nil =>
      by_cases hkind : s.kind = .bool
      · simp [hkind, flagStep_nil, Except.map]
      · simp [hkind]
    | cons c after =>
      cases hstart : valueStart? (c :: after) with
      | none => simp [hstart]
      | some start => by_cases hkind : s.kind = .bool <;> simp [hstart, hkind, Except.map]
  · rw [if_neg hopen, if_neg hopen]

theorem named?_eq (specs : List Spec) (t : Text) :
    named? specs t =
      match openedBy? specs t with
      | none => .ok none
      | some (s, start) => (readAt s start).map some := by
  induction specs with
  | nil => rfl
  | cons s specs ih =>
    rw [named?, namedStep?_eq]
    simp only [openedBy?, List.findSome?_cons] at ih ⊢
    cases opened? s t with
    | none => exact ih
    | some start => cases hr : readAt s start <;> simp [hr, Except.map]

/-- A step reads the spec that the text opens with, else the default argument. -/
theorem step_eq (specs : List Spec) (t : Text) :
    step specs t =
      match openedBy? specs t with
      | none => defaulted specs t
      | some (s, start) => readAt s start := by
  rw [step, named?_eq]
  cases openedBy? specs t with
  | none => rfl
  | some found =>
    obtain ⟨s, start⟩ := found
    cases hr : readAt s start <;> simp [hr, Except.map]

/-- A text that opens with one spec of a group and no other is read as that spec. -/
theorem openedBy?_of_only {start : Text} (hs : s ∈ specs) (hstart : opened? s t = some start)
    (honly : ∀ s' ∈ specs, s' ≠ s → opened? s' t = none) :
    openedBy? specs t = some (s, start) := by
  induction specs with
  | nil => cases hs
  | cons s' specs ih =>
    rw [openedBy?, List.findSome?_cons]
    by_cases heq : s' = s
    · subst heq
      rw [hstart]
      rfl
    · rw [honly s' (by simp) heq]
      refine ih ?_ fun x hx => honly x (by simp [hx])
      rcases List.mem_cons.1 hs with rfl | hs
      · exact absurd rfl heq
      · exact hs

/-! ### Names and the words that stand for them -/

/-- A word that is the name, letter case aside and in as many characters, opens with it. -/
theorem opened?_of_fold_eq {word after start : Text} (hlen : word.length = s.name.length)
    (hfold : word.fold = s.name.fold) (hstart : valueStart? after = some start) :
    opened? s (word ++ after) = some start := by
  have hopen : (word ++ after).opensWith s.name = true := by
    rw [Text.opensWith_iff, ← hlen, List.take_left' rfl, hfold]
  have hdrop : (word ++ after).drop s.name.length = after := by
    rw [← hlen, List.drop_left' rfl]
  cases after with
  | nil => cases hstart
  | cons c after => rw [opened?_of_drop_eq_cons hopen hdrop, hstart]

/-- A value begins after a space, a colon and a space, or an equals sign. -/
theorem valueStart?_cons_of_ne {c : Char} {u : Text} (hspace : c ≠ ' ') (hequals : c ≠ '=')
    (hcolon : ∀ w, c :: u ≠ ':' :: ' ' :: w) : valueStart? (c :: u) = none := by
  unfold valueStart?
  split
  · rename_i heq
    exact absurd (List.cons.inj heq).1 hspace
  · rename_i w heq
    exact absurd heq (hcolon w)
  · rename_i heq
    exact absurd (List.cons.inj heq).1 hequals
  · rfl

/-- What begins with a word and then with a character that no name has opens with no other name
    than the word.  Only a colon within the word could be taken for the end of a shorter name. -/
theorem opened?_of_fold_ne {word u : Text} {c : Char} (hc : c.toNat < 65) (hname : c ∉ s.name)
    (hspace : ' ' ∉ word) (hequals : '=' ∉ word) (hcolon : c ≠ ' ' ∨ ':' ∉ word)
    (hfold : word.fold ≠ s.name.fold) : opened? s (word ++ c :: u) = none := by
  by_cases hlen : s.name.length ≤ word.length
  · -- the name is matched within the word, so what follows it starts in the word or at its end
    by_cases hopen : (word ++ c :: u).opensWith s.name
    · have htake : Text.fold (word.take s.name.length) = s.name.fold := by
        rw [Text.opensWith_iff, List.take_append_of_le_length hlen] at hopen
        exact hopen
      have hdrop : (word ++ c :: u).drop s.name.length = word.drop s.name.length ++ c :: u :=
        List.drop_append_of_le_length hlen
      cases hrest : word.drop s.name.length with
      | nil =>
        have hall : word.take s.name.length = word :=
          List.take_of_length_le (List.drop_eq_nil_iff.1 hrest)
        rw [hall] at htake
        exact absurd htake hfold
      | cons x xs =>
        have hmem : ∀ y ∈ x :: xs, y ∈ word := by
          intro y hy
          rw [← hrest] at hy
          exact List.mem_of_mem_drop hy
        have hstart : valueStart? (x :: (xs ++ c :: u)) = none := by
          refine valueStart?_cons_of_ne ?_ ?_ ?_
          · rintro rfl
            exact hspace (hmem _ (by simp))
          · rintro rfl
            exact hequals (hmem _ (by simp))
          · intro w heq
            obtain ⟨rfl, hafter⟩ := List.cons.inj heq
            cases xs with
            | nil =>
              rcases hcolon with hne | hnot
              · exact hne (List.cons.inj hafter).1
              · exact hnot (hmem _ (by simp))
            | cons y ys =>
              obtain ⟨rfl, -⟩ := List.cons.inj hafter
              exact hspace (hmem _ (by simp))
        rw [hrest, List.cons_append] at hdrop
        simp only [opened?, hdrop, hstart, ite_self]
    · simp [opened?, hopen]
  · -- the name reaches beyond the word, so it would have to have the character
    have hopen : (word ++ c :: u).opensWith s.name = false := by
      by_contra hopen
      rw [Bool.not_eq_false, Text.opensWith_iff] at hopen
      have hmem : c ∈ (word ++ c :: u).take s.name.length :=
        Text.mem_take_append_cons (Nat.not_le.1 hlen) u
      exact hname ((Text.mem_iff_of_fold_eq hc hopen).1 hmem)
    simp [opened?, hopen]

end CommandLang.Scan
