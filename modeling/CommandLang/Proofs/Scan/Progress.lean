/-
  CommandLang/Proofs/Scan/Progress.lean
  =====================================
  **A scan gets on with every step, and ends.**

  Nothing is asked of the specs here: names may be empty or fold to another length, and kinds may be
  missing.

    * a step leaves a proper end of the text          (`rest_of_step`);
    * so a scan takes no more steps than the text has characters: one that is allowed so many and
      no more (`scanWithin`) comes to its end, and yields what `scan` yields
                                                      (`scanWithin_of_le`).

  Main statement: both of these, and that every string among the arguments is part of the text
  (`scan_advances`).
-/
import CommandLang.Proofs.Scan.Excerpt

namespace CommandLang.Scan

variable {specs : List Spec} {t : Text}

/-! ### Steps -/

/-- A step leaves a proper end of a text that is not empty. -/
theorem rest_of_step {found : Step} (ht : t ≠ []) (h : step specs t = .ok found) :
    found.rest <:+ t ∧ found.rest ≠ t := by
  refine ⟨(step_within h).2, ?_⟩
  intro heq
  have hlt := length_rest_lt_of_step h ht
  rw [heq] at hlt
  exact Nat.lt_irrefl _ hlt

/-! ### A scan that may take so many steps -/

/-- The scan of a text in no more than so many steps, and none if more would be needed. -/
def scanWithin (specs : List Spec) : Nat → Text → Option Trace
  | 0, t => if t.dropSpaces = [] then some .done else none
  | n + 1, t =>
    if t.dropSpaces = [] then some .done
    else
      match step specs t.dropSpaces with
      | .error fault => some (.broken fault)
      | .ok found => (scanWithin specs n found.rest).map (.cons found.reading)

theorem scanWithin_of_blank (n : Nat) (ht : t.dropSpaces = []) :
    scanWithin specs n t = some .done := by
  cases n with
  | zero => simp [scanWithin, ht]
  | succ n => simp [scanWithin, ht]

/-- As many steps as there are characters after the leading spaces are enough. -/
theorem scanWithin_of_le {n : Nat} (hn : t.dropSpaces.length ≤ n) :
    scanWithin specs n t = some (scan specs t) := by
  induction n generalizing t with
  | zero =>
    have hblank : t.dropSpaces = [] := List.length_eq_zero_iff.1 (Nat.le_zero.1 hn)
    rw [scanWithin_of_blank 0 hblank, scan_of_blank hblank]
  | succ n ih =>
    by_cases ht : t.dropSpaces = []
    · rw [scanWithin_of_blank (n + 1) ht, scan_of_blank ht]
    · cases hs : step specs t.dropSpaces with
      | error f => simp [scanWithin, ht, hs, scan_of_fault ht hs]
      | ok found =>
        -- the step took a character, so one step less is enough for the rest
        have hlt := length_rest_lt_of_step hs ht
        have hle := Text.length_dropSpaces_le found.rest
        have hrest := ih (t := found.rest) (by omega)
        simp [scanWithin, ht, hs, hrest, scan_of_step ht hs]

/-! ### What a scan cannot do -/

/-- **A scan always gets on and invents nothing**, whatever the specs: a step leaves a proper end of
    the text, a scan ends within as many steps as the text has characters, and every string that it
    yields is part of the text. -/
theorem scan_advances (specs : List Spec) (t : Text) :
    (∀ u found, u ≠ [] → step specs u = .ok found → found.rest <:+ u ∧ found.rest ≠ u) ∧
      scanWithin specs t.length t = some (scan specs t) ∧
      ∀ name u, ⟨name, .string u⟩ ∈ (scan specs t).arguments → u <:+: t := by
  refine ⟨?_, ?_, ?_⟩
  · intro u found hu h
    exact rest_of_step hu h
  · exact scanWithin_of_le (Text.length_dropSpaces_le t)
  · intro name u h
    exact infix_of_mem_arguments h

/-- A flag without a name hands back the word behind the equals sign, and a flag whose name is longer
    than what is left of the text is matched by folding. -/
theorem scan_advances_under_odd_names :
    let specs : List Spec := [⟨1, "x", .string⟩, ⟨1, "ss", .bool⟩, ⟨1, [], .bool⟩]
    step specs "ß" = .ok ⟨.argument ⟨"ss", .bool true⟩, []⟩ ∧
      ([] : Text) <:+ "ß" ∧ ([] : Text) ≠ "ß" ∧
      scanWithin specs 6 "=x=a ß" =
        some ⟨[.argument ⟨[], .bool true⟩, .argument ⟨"x", .string "a"⟩,
          .argument ⟨"ss", .bool true⟩], none⟩ ∧
      ("a" : Text) <:+: "=x=a ß" := by
  intro specs
  obtain ⟨hstep, hscan, hstring⟩ := scan_advances specs "=x=a ß"
  have hflag : step specs "ß" = .ok ⟨.argument ⟨"ss", .bool true⟩, []⟩ := by decide +kernel
  have htrace : scan specs "=x=a ß" =
      ⟨[.argument ⟨[], .bool true⟩, .argument ⟨"x", .string "a"⟩,
        .argument ⟨"ss", .bool true⟩], none⟩ := by decide +kernel
  obtain ⟨hsuffix, hne⟩ := hstep _ _ (by decide) hflag
  rw [htrace] at hscan
  refine ⟨hflag, hsuffix, hne, hscan, hstring "x" _ ?_⟩
  rw [htrace]
  decide

end CommandLang.Scan
