/-
  CommandLang/Proofs/Scan/Padding.lean
  ====================================
  **Spaces at the end of a text.**

  A text and the same text with spaces after it are scanned side by side: at each step they open
  with the same spec, and the same value is read from both, up to the next space.  There is one
  exception (`Bare`).  The name of a spec that is no flag does not open a text that ends with it, and
  so it is read as a default argument, but with a space after it the name is followed by an empty
  value.  In a group where the name comes to no more than that (`Spec.Void`), the spaces make no
  difference (`Spec.Terse`), except to the warning that is logged.

  A text that ends with a colon is left out, since a name with a colon and a space after it has a
  value.

  Main statement: `trailing_spaces_mean_nothing`.
-/
import CommandLang.Proofs.Color.Outcome
import CommandLang.Proofs.Scan.Excerpt
import CommandLang.Proofs.Scan.Spelling
import CommandLang.Proofs.Text.Fold

namespace CommandLang

/-! ### Texts with spaces after them -/

namespace Text

variable {t t' u : Text}

/-- The second text is the first one with spaces after it. -/
def Padded (t t' : Text) : Prop := ∃ pad, t' = t ++ pad ∧ ∀ c ∈ pad, c = ' '

theorem padded_append_replicate (t : Text) (k : Nat) : Padded t (t ++ List.replicate k ' ') :=
  ⟨_, rfl, fun _ hc => List.eq_of_mem_replicate hc⟩

theorem Padded.refl (t : Text) : Padded t t := ⟨[], by simp, by simp⟩

theorem Padded.dropSpaces (h : Padded t t') : Padded t.dropSpaces t'.dropSpaces := by
  obtain ⟨pad, rfl, hpad⟩ := h
  rw [Text.dropSpaces, Text.dropSpaces, List.dropWhile_append]
  split
  · rename_i hempty
    have hblank : pad.dropWhile (· == ' ') = [] := dropSpaces_eq_nil_iff.2 hpad
    rw [List.isEmpty_iff.1 hempty, hblank]
    exact .refl []
  · exact ⟨pad, rfl, hpad⟩

theorem Padded.dropSpaces_eq_nil (h : Padded t t') (ht : t.dropSpaces = []) :
    t'.dropSpaces = [] := by
  obtain ⟨pad, heq, hpad⟩ := h.dropSpaces
  rw [ht, List.nil_append] at heq
  rw [← dropSpaces_dropSpaces, heq]
  exact dropSpaces_eq_nil_iff.2 hpad

theorem Padded.ne_nil (h : Padded t t') (ht : t ≠ []) : t' ≠ [] := by
  obtain ⟨pad, rfl, -⟩ := h
  simp [ht]

/-- A cut at a space takes the same from both, and what is left differs by spaces again. -/
theorem Padded.cutAt (h : Padded t t') :
    (t'.cutAt ' ').1 = (t.cutAt ' ').1 ∧ Padded (t.cutAt ' ').2 (t'.cutAt ' ').2 := by
  obtain ⟨pad, rfl, hpad⟩ := h
  by_cases hspace : ' ' ∈ t
  · obtain ⟨word, rest, rfl, hword⟩ := List.eq_append_cons_of_mem hspace
    rw [List.append_assoc, List.cons_append, cutAt_append hword, cutAt_append hword]
    exact ⟨rfl, pad, rfl, hpad⟩
  · rw [cutAt_of_not_mem hspace]
    cases pad with
    | nil =>
      rw [List.append_nil, cutAt_of_not_mem hspace]
      exact ⟨rfl, .refl []⟩
    | cons c pad =>
      obtain ⟨rfl, hrest⟩ := List.forall_mem_cons.1 hpad
      rw [cutAt_append hspace]
      exact ⟨rfl, pad, rfl, hrest⟩

theorem getLast?_ne_of_suffix {c : Char} (h : u <:+ t) (ht : t.getLast? ≠ some c) :
    u.getLast? ≠ some c := by
  obtain ⟨before, rfl⟩ := h
  intro hu
  apply ht
  rw [List.getLast?_append, hu]
  rfl

end Text

/-! ### Specs to which spaces make no difference -/

/-- The name of the spec, given for its value, comes to what no value comes to. -/
def Spec.Void (s : Spec) : Prop :=
  ∀ word : Text, word.fold = s.name.fold →
    (Scan.Reading.ofValue s.name s.kind word).map Scan.Reading.argument? =
      (Scan.Reading.ofValue s.name s.kind []).map Scan.Reading.argument?

/-- Every argument is one word, and the name of the default argument is no value of it. -/
structure Spec.Terse (specs : List Spec) : Prop extends Delimited specs where
  length : ∀ s ∈ specs, ∀ word : Text, word.fold = s.name.fold → word.length = s.name.length
  word : ∀ s ∈ specs.head?, s.kind ≠ .string
  flags : ∀ s ∈ specs, s.kind = .bool ∨ specs.head? = some s
  void : ∀ s ∈ specs.head?, s.Void

theorem Spec.void_of_color {s : Spec} (hkind : s.kind = .color) (hhash : '#' ∉ s.name)
    (hparenthesis : '(' ∉ s.name) : s.Void := by
  intro word hfold
  rw [← Text.mem_iff_of_fold_eq (by decide) hfold] at hhash hparenthesis
  have hword := Color.read_eq_none_of_not_mem hhash hparenthesis
  have hnil : Color.read [] = .ok none := rfl
  simp [Scan.Reading.ofValue, hkind, hword, hnil, Except.map, Scan.Reading.argument?]

theorem Spec.void_of_int {s : Spec} (hkind : s.kind = .int)
    (hdigits : ∀ c ∈ s.name.fold, isDigit c = false) : s.Void := by
  intro word hfold
  have hword := Numeral.leading_eq_zero_of_forall (Text.isDigit_of_fold_eq hdigits hfold)
  have hnil : Numeral.leading [] = .ok 0 := rfl
  simp [Scan.Reading.ofValue, hkind, hword, hnil]

namespace Scan

open Text (Padded)

variable {specs : List Spec} {s : Spec} {t t' start start' rest rest' : Text}

/-! ### Where a value begins -/

theorem valueStart?_padded (h : Padded t t') (hne : t ≠ []) (hlast : t.getLast? ≠ some ':') :
    Option.Rel Padded (valueStart? t) (valueStart? t') := by
  obtain ⟨pad, rfl, hpad⟩ := h
  obtain ⟨c, u, rfl⟩ := List.exists_cons_of_ne_nil hne
  rw [List.cons_append]
  by_cases hspace : c = ' '
  · subst hspace
    exact .some (Padded.dropSpaces ⟨pad, rfl, hpad⟩)
  by_cases hequals : c = '='
  · subst hequals
    exact .some ⟨pad, rfl, hpad⟩
  by_cases hcolon : ∃ w, c :: u = ':' :: ' ' :: w
  · obtain ⟨w, hw⟩ := hcolon
    obtain ⟨rfl, rfl⟩ := List.cons.inj hw
    exact .some (Padded.dropSpaces ⟨pad, rfl, hpad⟩)
  · rw [valueStart?_cons_of_ne hspace hequals fun w hw => hcolon ⟨w, hw⟩,
      valueStart?_cons_of_ne hspace hequals]
    · exact .none
    · -- the colon would be the last character, or the space after it one of the text
      intro w hw
      obtain ⟨rfl, hafter⟩ := List.cons.inj hw
      cases u with
      | nil => exact hlast rfl
      | cons d u =>
        obtain ⟨rfl, -⟩ := List.cons.inj hafter
        exact hcolon ⟨u, rfl⟩

theorem length_le_of_opensWith (hspecs : Spec.Terse specs) (hs : s ∈ specs)
    (h : t.opensWith s.name) : s.name.length ≤ t.length := by
  rw [Text.opensWith_iff] at h
  have hlen := hspecs.length s hs _ h
  rw [List.length_take] at hlen
  omega

/-- A name does not reach into the spaces. -/
theorem opensWith_padded (hspecs : Spec.Terse specs) (hs : s ∈ specs) (h : Padded t t') :
    t'.opensWith s.name ↔ t.opensWith s.name := by
  obtain ⟨pad, rfl, hpad⟩ := h
  by_cases hle : s.name.length ≤ t.length
  · rw [Text.opensWith_iff, Text.opensWith_iff, List.take_append_of_le_length hle]
  · constructor
    · intro hopen
      have hlen := length_le_of_opensWith hspecs hs hopen
      cases pad with
      | nil =>
        rw [List.append_nil] at hlen
        exact absurd hlen hle
      | cons c pad =>
        obtain ⟨rfl, -⟩ := List.forall_mem_cons.1 hpad
        have hspace := hspecs.space_not_mem hs (Text.opensWith_iff.1 hopen)
        exact absurd (Text.mem_take_append_cons (Nat.not_le.1 hle) pad) hspace
    · intro hopen
      exact absurd (length_le_of_opensWith hspecs hs hopen) hle

/-- The text is the name of a spec that is no flag.  It opens with the spec only if there are spaces
    after it, and then the value is empty. -/
structure Bare (s : Spec) (t t' : Text) : Prop where
  kind : s.kind ≠ .bool
  fold : t.fold = s.name.fold
  unopened : opened? s t = none
  opened : opened? s t' = some []

theorem opened?_name_padded (hopen : t.opensWith s.name) (hlen : t.length = s.name.length)
    (hopen' : t'.opensWith s.name) (h : Padded t t') :
    Option.Rel Padded (opened? s t) (opened? s t') ∨ Bare s t t' := by
  obtain ⟨pad, rfl, hpad⟩ := h
  have hdrop : t.drop s.name.length = [] := List.drop_eq_nil_iff.2 hlen.le
  cases pad with
  | nil =>
    left
    rw [List.append_nil]
    cases opened? s t with
    | none => exact .none
    | some start => exact .some (.refl start)
  | cons c pad =>
    obtain ⟨rfl, hrest⟩ := List.forall_mem_cons.1 hpad
    have hstart : opened? s (t ++ ' ' :: pad) = some [] := by
      rw [opened?_of_drop_eq_cons hopen' (List.drop_left' hlen), valueStart?]
      exact congrArg some (Text.dropSpaces_eq_nil_iff.2 hrest)
    by_cases hkind : s.kind = .bool
    · left
      rw [opened?_of_drop_eq_nil hopen hdrop, if_pos hkind, hstart]
      exact .some (.refl [])
    · right
      refine ⟨hkind, ?_, ?_, hstart⟩
      · rw [Text.opensWith_iff, List.take_of_length_le hlen.le] at hopen
        exact hopen
      · rw [opened?_of_drop_eq_nil hopen hdrop, if_neg hkind]

theorem opened?_padded (hspecs : Spec.Terse specs) (hs : s ∈ specs) (h : Padded t t')
    (hlast : t.getLast? ≠ some ':') :
    Option.Rel Padded (opened? s t) (opened? s t') ∨ Bare s t t' := by
  have hiff := opensWith_padded hspecs hs h
  by_cases hopen : t.opensWith s.name
  · have hopen' := hiff.2 hopen
    have hle := length_le_of_opensWith hspecs hs hopen
    cases hdrop : t.drop s.name.length with
    | nil =>
      have hlen := Nat.le_antisymm (List.drop_eq_nil_iff.1 hdrop) hle
      exact opened?_name_padded hopen hlen hopen' h
    | cons c after =>
      left
      obtain ⟨pad, rfl, hpad⟩ := h
      have hdrop' : (t ++ pad).drop s.name.length = c :: (after ++ pad) := by
        rw [List.drop_append_of_le_length hle, hdrop, List.cons_append]
      have hsuffix : c :: after <:+ t := by
        rw [← hdrop]
        exact List.drop_suffix _ t
      rw [opened?_of_drop_eq_cons hopen hdrop, opened?_of_drop_eq_cons hopen' hdrop']
      apply valueStart?_padded ⟨pad, rfl, hpad⟩ (by simp)
      exact Text.getLast?_ne_of_suffix hsuffix hlast
  · left
    have hopen' : ¬ t'.opensWith s.name := fun hopen' => hopen (hiff.1 hopen')
    simp only [opened?, hopen, hopen']
    exact .none

/-! ### One step -/

/-- Both fail alike, or both come to the same argument, if to any, and what is left differs by
    spaces at the end. -/
inductive Alike : Except Fault Step → Except Fault Step → Prop
  | fault (fault : Fault) : Alike (.error fault) (.error fault)
  | found {r r' : Reading} {rest rest' : Text} : r.argument? = r'.argument? → Padded rest rest' →
      Alike (.ok ⟨r, rest⟩) (.ok ⟨r', rest'⟩)

theorem alike_of_map_argument?_eq {x x' : Except Fault Reading}
    (h : x.map Reading.argument? = x'.map Reading.argument?) (hrest : Padded rest rest') :
    Alike (x.map fun r => ⟨r, rest⟩) (x'.map fun r => ⟨r, rest'⟩) := by
  cases x with
  | error fault =>
    cases x' with
    | error fault' =>
      cases h
      exact .fault fault
    | ok r' => cases h
  | ok r =>
    cases x' with
    | error fault' => cases h
    | ok r' => exact .found (Except.ok.inj h) hrest

theorem valueStep_padded (name : Text) (kind : Kind) (h : Padded start start') :
    Alike (valueStep name kind start) (valueStep name kind start') := by
  obtain ⟨hword, hrest⟩ := h.cutAt
  rw [valueStep_eq, valueStep_eq, hword]
  exact alike_of_map_argument?_eq rfl hrest

theorem flagStep_padded (name : Text) (h : Padded start start') :
    Alike (.ok (flagStep name start)) (.ok (flagStep name start')) := by
  obtain ⟨hword, hrest⟩ := h.cutAt
  simp only [flagStep, hword]
  cases Flag.read? (start.cutAt ' ').1 with
  | some flag => exact .found rfl hrest
  | none => exact .found rfl h

theorem readAt_padded (s : Spec) (h : Padded start start') :
    Alike (readAt s start) (readAt s start') := by
  unfold readAt
  split
  · exact flagStep_padded s.name h
  · exact valueStep_padded s.name s.kind h

theorem defaulted_padded (hspecs : Spec.Terse specs) (h : Padded t t') :
    Alike (defaulted specs t) (defaulted specs t') := by
  cases specs with
  | nil => exact .fault .noDefault
  | cons s others =>
    have hkind := hspecs.word s rfl
    simp only [defaulted, hkind, if_false]
    exact valueStep_padded s.name s.kind h

/-- By itself the name of the default argument is read as a value, else as a name without one. -/
theorem Bare.alike (hspecs : Spec.Terse specs) (hs : s ∈ specs) (h : Bare s t t') :
    Alike (defaulted specs t) (readAt s []) := by
  have hhead : specs.head? = some s := (hspecs.flags s hs).resolve_left h.kind
  obtain ⟨others, rfl⟩ := List.head?_eq_some_iff.1 hhead
  have hspace : ' ' ∉ t := hspecs.space_not_mem hs h.fold
  simp only [defaulted, readAt, hspecs.word s hhead, h.kind, if_false, valueStep_eq,
    Text.cutAt_of_not_mem hspace]
  exact alike_of_map_argument?_eq (hspecs.void s hhead t h.fold) (.refl [])

/-- **A step reads the same from a text with spaces after it.** -/
theorem step_padded (hspecs : Spec.Terse specs) (h : Padded t t') (hlast : t.getLast? ≠ some ':') :
    Alike (step specs t) (step specs t') := by
  rw [step_eq, step_eq]
  cases hopen : openedBy? specs t with
  | some found =>
    obtain ⟨s, start⟩ := found
    obtain ⟨hs, hstart⟩ := opened?_of_openedBy? hopen
    rcases opened?_padded hspecs hs h hlast with hrel | hbare
    · rw [hstart] at hrel
      generalize hstart' : opened? s t' = found' at hrel
      cases hrel with
      | some hpad =>
        rw [(openedBy?_eq_some_iff hspecs.toDelimited).2 ⟨hs, hstart'⟩]
        exact readAt_padded s hpad
    · rw [hbare.unopened] at hstart
      cases hstart
  | none =>
    cases hopen' : openedBy? specs t' with
    | none => exact defaulted_padded hspecs h
    | some found =>
      obtain ⟨s, start'⟩ := found
      obtain ⟨hs, hstart'⟩ := opened?_of_openedBy? hopen'
      have hnone : opened? s t = none :=
        Option.map_eq_none_iff.1 (List.findSome?_eq_none_iff.1 hopen s hs)
      rcases opened?_padded hspecs hs h hlast with hrel | hbare
      · rw [hnone, hstart'] at hrel
        cases hrel
      · rw [hbare.opened] at hstart'
        cases hstart'
        exact hbare.alike hspecs hs

theorem step_dropSpaces_padded (hspecs : Spec.Terse specs) (h : Padded t t')
    (hlast : t.getLast? ≠ some ':') :
    Alike (step specs t.dropSpaces) (step specs t'.dropSpaces) :=
  step_padded hspecs h.dropSpaces (Text.getLast?_ne_of_suffix (Text.dropSpaces_suffix t) hlast)

/-! ### A whole scan -/

theorem Trace.outcome_cons_congr {r r' : Reading} {trace trace' : Trace}
    (hreading : r.argument? = r'.argument?) (htrace : trace.outcome = trace'.outcome) :
    (trace.cons r).outcome = (trace'.cons r').outcome := by
  cases r with
  | argument a =>
    cases r' with
    | argument a' =>
      cases hreading
      rw [Trace.outcome_cons_argument, Trace.outcome_cons_argument, htrace]
    | rejected name' raw' => cases hreading
  | rejected name raw =>
    cases r' with
    | argument a' => cases hreading
    | rejected name' raw' =>
      rw [Trace.outcome_cons_rejected, Trace.outcome_cons_rejected, htrace]

theorem outcome_scan_padded (hspecs : Spec.Terse specs) (h : Padded t t')
    (hlast : t.getLast? ≠ some ':') : (scan specs t').outcome = (scan specs t).outcome := by
  -- the induction is on the scan of the first text, and what a step leaves is an end of it
  fun_induction scan specs t generalizing t' with
  | case1 t ht => rw [scan_of_blank (h.dropSpaces_eq_nil ht)]
  | case2 t c cs ht fault hs =>
    have hne : t'.dropSpaces ≠ [] := h.dropSpaces.ne_nil (by simp [ht])
    have halike := step_dropSpaces_padded hspecs h hlast
    rw [ht, hs] at halike
    generalize hs' : step specs t'.dropSpaces = outcome at halike
    cases halike
    rw [scan_of_fault hne hs']
  | case3 t c cs ht found hs ih =>
    have hne : t'.dropSpaces ≠ [] := h.dropSpaces.ne_nil (by simp [ht])
    have halike := step_dropSpaces_padded hspecs h hlast
    rw [ht, hs] at halike
    generalize hs' : step specs t'.dropSpaces = outcome at halike
    cases halike with
    | found hreading hrest =>
      rw [scan_of_step hne hs']
      apply Trace.outcome_cons_congr hreading.symm
      apply ih hrest
      rw [← ht] at hs
      exact Text.getLast?_ne_of_suffix ((step_within hs).2.trans (Text.dropSpaces_suffix t)) hlast

/-! ### The built-in groups -/

theorem length_eq_of_builtin {group : Int}
    (h : group = Builtin.annotationGroup ∨ group = Builtin.scrollGroup) :
    ∀ s ∈ Spec.ofGroup group Builtin.specs, ∀ word : Text, word.fold = s.name.fold →
      word.length = s.name.length := by
  intro s hs word hfold
  have hascii : ∀ s ∈ Builtin.specs, ∀ c ∈ s.name, c.toNat < 0x80 := by decide
  -- the name `filter` of the other group may be written with the ligature for `fi`
  have hligature : ∀ s ∈ Builtin.specs,
      s.group = Builtin.annotationGroup ∨ s.group = Builtin.scrollGroup →
        ∀ c ∈ ligatures, ¬ foldChar c <:+: s.name.fold := by decide +kernel
  have hmem := (Spec.ofGroup_sublist group Builtin.specs).subset hs
  refine Text.length_eq_of_fold_eq (hascii s hmem) (hligature s hmem ?_) hfold
  rwa [Spec.group_of_mem_ofGroup hs]

theorem terse_builtin {group : Int}
    (h : group = Builtin.annotationGroup ∨ group = Builtin.scrollGroup) :
    Spec.Terse (Spec.ofGroup group Builtin.specs) := by
  have hlength := length_eq_of_builtin h
  rcases h with rfl | rfl
  · refine ⟨⟨⟨by decide, by decide⟩, by decide⟩, hlength, by decide, by decide, ?_⟩
    rintro s ⟨⟩
    exact Spec.void_of_color rfl (by decide) (by decide)
  · refine ⟨⟨⟨by decide, by decide⟩, by decide⟩, hlength, by decide, by decide, ?_⟩
    rintro s ⟨⟩
    exact Spec.void_of_int rfl (by decide)

/-- **Spaces at the end of a text mean nothing** to the commands that create annotations and to
    those that scroll, if the text does not end with a colon: the arguments are the same, or the
    fault. -/
theorem trailing_spaces_mean_nothing {group : Int}
    (hgroup : group = Builtin.annotationGroup ∨ group = Builtin.scrollGroup) {r : Text}
    (hlast : r.getLast? ≠ some ':') (k : Nat) :
    (scan (Spec.ofGroup group Builtin.specs) (r ++ List.replicate k ' ')).outcome =
      (scan (Spec.ofGroup group Builtin.specs) r).outcome :=
  outcome_scan_padded (terse_builtin hgroup) (Text.padded_append_replicate r k) hlast

/-- The name of the colour is rejected with spaces after it and without, and only the warning
    differs.  After a colon a space makes a difference: with it, the flag is given by name. -/
theorem trailing_spaces_mean_nothing_after_a_name :
    let specs := Spec.ofGroup Builtin.annotationGroup Builtin.specs
    let r : Text := "OpenEdit #ff0000 COLOR"
    r.getLast? ≠ some ':' ∧
      (scan specs (r ++ List.replicate 2 ' ')).outcome =
        .ok [⟨"color", .color ⟨255, 0, 0, 255⟩⟩, ⟨"openedit", .bool true⟩] ∧
      (scan specs (r ++ List.replicate 2 ' ')).log ≠ (scan specs r).log ∧
      (scan specs "openedit:").outcome ≠ (scan specs "openedit: ").outcome := by
  intro specs r
  have hlast : r.getLast? ≠ some ':' := by decide
  refine ⟨hlast, ?_, by decide +kernel, by decide +kernel⟩
  rw [trailing_spaces_mean_nothing (.inl rfl) hlast 2]
  decide +kernel

end Scan

end CommandLang
