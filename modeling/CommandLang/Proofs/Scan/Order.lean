/-
  CommandLang/Proofs/Scan/Order.lean
  ==================================
  **The order of the specs matters to the default argument only.**

  The specs of a group are tried in turn, and the first one that the text opens with is read.  A text
  can begin with several names at once, as one name may be the beginning of another, and as folding
  may bring a short text up to a longer name.  But it opens with one of them at most: where a value
  begins there stands a space, a colon or an equals sign, which is in no longer name
  (`eq_of_opened?`).

  Main statement: a named argument is read alike whatever the order of the specs, and so is a whole
  text if the default argument stays the same (`scan_ignores_order`).
-/
import CommandLang.Proofs.Scan.Step
import CommandLang.Proofs.Spec

namespace CommandLang.Scan

variable {specs others : List Spec} {s s' : Spec} {t start start' : Text}

/-! ### One spec at most -/

/-- A text that opens with a spec ends with its name, or has a sign behind the name. -/
theorem sign_of_opened? (h : opened? s t = some start) :
    t.opensWith s.name ∧
      (t.drop s.name.length = [] ∨
        ∃ c u, t.drop s.name.length = c :: u ∧ (c = ' ' ∨ c = ':' ∨ c = '=')) := by
  unfold opened? at h
  split at h
  · rename_i hopen
    refine ⟨hopen, ?_⟩
    split at h
    · rename_i hdrop
      exact .inl hdrop
    · right
      unfold valueStart? at h
      split at h
      · exact ⟨' ', _, by assumption, .inl rfl⟩
      · exact ⟨':', _, by assumption, .inr (.inl rfl)⟩
      · exact ⟨'=', _, by assumption, .inr (.inr rfl)⟩
      · cases h
  · cases h

/-- Of two names that a text opens with, the longer one is no longer than the other. -/
theorem fold_eq_of_opened?_of_le (hspecs : Spec.Delimited specs) (hs' : s' ∈ specs)
    (hle : s.name.length ≤ s'.name.length) (h : opened? s t = some start)
    (h' : opened? s' t = some start') : s.name.fold = s'.name.fold := by
  obtain ⟨hopen, hend⟩ := sign_of_opened? h
  obtain ⟨hopen', -⟩ := sign_of_opened? h'
  rw [Text.opensWith_iff] at hopen hopen'
  rcases hend with hdrop | ⟨c, u, hdrop, hc⟩
  · -- the text ends with the shorter name, so that both names stand for all of it
    have hlen : t.length ≤ s.name.length := List.drop_eq_nil_iff.1 hdrop
    rw [List.take_of_length_le hlen] at hopen
    rw [List.take_of_length_le (hlen.trans hle)] at hopen'
    exact hopen.symm.trans hopen'
  · rcases Nat.eq_or_lt_of_le hle with heq | hlt
    · rw [heq] at hopen
      exact hopen.symm.trans hopen'
    · -- the sign behind the shorter name would be in the longer one
      have hmem : c ∈ t.take s'.name.length := by
        have htake : t.take s'.name.length =
            t.take s.name.length ++ (c :: u).take (s'.name.length - s.name.length) := by
          rw [← hdrop, ← List.take_add, Nat.add_sub_cancel' hle]
        obtain ⟨k, hk⟩ := Nat.exists_eq_add_of_lt (Nat.sub_pos_of_lt hlt)
        rw [htake, List.mem_append, hk, List.take_succ_cons]
        exact .inr List.mem_cons_self
      have hname : ∀ x : Char, x.toNat < 65 → x ∈ t.take s'.name.length → x ∈ s'.name := by
        intro x hx
        exact (Text.mem_iff_of_fold_eq hx hopen').1
      rcases hc with rfl | rfl | rfl
      · exact absurd (hname _ (by decide) hmem) (hspecs.free s' hs').1
      · exact absurd (hname _ (by decide) hmem) (hspecs.colon s' hs')
      · exact absurd (hname _ (by decide) hmem) (hspecs.free s' hs').2

/-- A text opens with one spec at most. -/
theorem fold_eq_of_opened? (hspecs : Spec.Delimited specs) (hs : s ∈ specs) (hs' : s' ∈ specs)
    (h : opened? s t = some start) (h' : opened? s' t = some start') :
    s.name.fold = s'.name.fold := by
  rcases Nat.le_total s.name.length s'.name.length with hle | hle
  · exact fold_eq_of_opened?_of_le hspecs hs' hle h h'
  · exact (fold_eq_of_opened?_of_le hspecs hs hle h' h).symm

/-- Where one spec at most can be meant, the first one that the text opens with is the one. -/
theorem openedBy?_eq_some_iff (hspecs : Spec.Delimited specs) :
    openedBy? specs t = some (s, start) ↔ s ∈ specs ∧ opened? s t = some start := by
  constructor
  · exact opened?_of_openedBy?
  · rintro ⟨hs, hstart⟩
    apply openedBy?_of_only hs hstart
    intro s' hs' hne
    cases hstart' : opened? s' t with
    | none => rfl
    | some start' =>
      have hfold := fold_eq_of_opened? hspecs hs' hs hstart' hstart
      exact absurd (hspecs.eq_of_fold_eq hs' hs hfold) hne

/-! ### Specs in another order -/

theorem openedBy?_perm (hspecs : Spec.Delimited specs) (hperm : specs.Perm others) (t : Text) :
    openedBy? others t = openedBy? specs t := by
  apply Option.ext
  rintro ⟨s, start⟩
  rw [openedBy?_eq_some_iff (hspecs.perm hperm), openedBy?_eq_some_iff hspecs, hperm.mem_iff]

theorem named?_perm (hspecs : Spec.Delimited specs) (hperm : specs.Perm others) (t : Text) :
    named? others t = named? specs t := by
  rw [named?_eq, named?_eq, openedBy?_perm hspecs hperm]

theorem defaulted_of_head?_eq (h : others.head? = specs.head?) (t : Text) :
    defaulted others t = defaulted specs t := by
  cases specs <;> cases others <;> simp_all [defaulted]

theorem step_perm (hspecs : Spec.Delimited specs) (hperm : specs.Perm others)
    (hhead : others.head? = specs.head?) (t : Text) : step others t = step specs t := by
  rw [step, step, named?_perm hspecs hperm, defaulted_of_head?_eq hhead]

/-- A scan depends on what its steps are, and on nothing else of the specs. -/
theorem scan_of_step_eq (h : ∀ u, step others u = step specs u) (t : Text) :
    scan others t = scan specs t := by
  fun_induction scan specs t with
  | case1 t ht => rw [scan_of_blank ht]
  | case2 t c cs ht f hs =>
    rw [← ht, ← h] at hs
    rw [scan_of_fault (by simp [ht]) hs]
  | case3 t c cs ht found hs ih =>
    rw [← ht, ← h] at hs
    rw [scan_of_step (by simp [ht]) hs, ih]

/-- A spec is read by name exactly if the text opens with it. -/
theorem namedStep?_eq_none_iff : namedStep? s t = .ok none ↔ opened? s t = none := by
  rw [namedStep?_eq]
  cases opened? s t with
  | none => simp
  | some start => cases hr : readAt s start <;> simp [hr, Except.map]

/-- **The order of the specs does not matter** where no name has a sign in it: one spec at most is
    read by name, the same one in any order, and a scan differs only with the default argument. -/
theorem scan_ignores_order (hspecs : Spec.Delimited specs) (hperm : specs.Perm others) (t : Text) :
    (specs.Pairwise fun s s' => namedStep? s t = .ok none ∨ namedStep? s' t = .ok none) ∧
      named? others t = named? specs t ∧
      (others.head? = specs.head? → scan others t = scan specs t) := by
  refine ⟨?_, named?_perm hspecs hperm t, ?_⟩
  · have hapart : specs.Pairwise fun s s' => s.name.fold ≠ s'.name.fold :=
      List.pairwise_map.1 hspecs.apart
    refine hapart.imp_of_mem ?_
    intro s s' hs hs' hne
    rw [namedStep?_eq_none_iff, namedStep?_eq_none_iff]
    cases hstart : opened? s t with
    | none => exact .inl rfl
    | some start =>
      cases hstart' : opened? s' t with
      | none => exact .inr rfl
      | some start' => exact absurd (fold_eq_of_opened? hspecs hs hs' hstart hstart') hne
  · intro hhead
    exact scan_of_step_eq (step_perm hspecs hperm hhead) t

/-- One name is the beginning of another, and one is longer than the text that stands for it. -/
theorem scan_ignores_order_of_nested_names :
    let specs : List Spec := [⟨1, "n", .int⟩, ⟨1, "nn", .string⟩, ⟨1, "ss", .bool⟩]
    let others : List Spec := [⟨1, "n", .int⟩, ⟨1, "ss", .bool⟩, ⟨1, "nn", .string⟩]
    Spec.Delimited specs ∧ specs.Perm others ∧ others.head? = specs.head? ∧
      (specs.Pairwise fun s s' =>
        namedStep? s "NN=a 7 ß" = .ok none ∨ namedStep? s' "NN=a 7 ß" = .ok none) ∧
      named? others "NN=a 7 ß" = .ok (some ⟨.argument ⟨"nn", .string "a"⟩, "7 ß"⟩) ∧
      scan others "NN=a 7 ß" =
        ⟨[.argument ⟨"nn", .string "a"⟩, .argument ⟨"n", .int 7⟩, .argument ⟨"ss", .bool true⟩],
          none⟩ := by
  intro specs others
  have hspecs : Spec.Delimited specs :=
    ⟨⟨by decide +kernel, by decide⟩, by decide⟩
  have hperm : specs.Perm others := by decide
  obtain ⟨hpairwise, hnamed, hscan⟩ := scan_ignores_order hspecs hperm "NN=a 7 ß"
  refine ⟨hspecs, hperm, rfl, hpairwise, ?_, ?_⟩
  · rw [hnamed]
    rfl
  · rw [hscan rfl]
    decide +kernel

end CommandLang.Scan
