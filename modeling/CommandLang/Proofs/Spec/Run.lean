/-
  CommandLang/Proofs/Spec/Run.lean
  ================================
  **The runs of an orderly table.**

  The specs of a group are looked up as the run that starts at the group's first spec, and a run ends
  at the first spec of another group.  Where the specs of a group stand together nothing of the group
  is behind that, so the run is the whole group (`ofGroup_eq_filter`), and the runs one after another
  are the whole table (`flatMap_ofGroup_appearing`).

  Main statement: in a table that passes its check every group with a spec is found whole, and the
  groups in the order in which they appear make up the table (`checked_table_is_its_runs`).
-/
import CommandLang.Proofs.Spec
import CommandLang.Proofs.Spec.Check

namespace CommandLang.Spec

variable {specs : List Spec} {groups : Groups}

/-! ### What holds of the beginning of a list -/

section Beginning

variable {α : Type} {p : α → Bool} {a : α} {l : List α}

theorem forall_not_of_pairwise (h : (a :: l).Pairwise fun x y => p y → p x) (ha : ¬ p a) :
    ∀ b ∈ l, ¬ p b := by
  intro b hb hpb
  exact ha (List.rel_of_pairwise_cons h hb hpb)

theorem takeWhile_eq_filter (h : l.Pairwise fun x y => p y → p x) : l.takeWhile p = l.filter p := by
  induction l with
  | nil => rfl
  | cons a l ih =>
    by_cases ha : p a
    · rw [List.takeWhile_cons_of_pos ha, List.filter_cons_of_pos ha, ih h.of_cons]
    · rw [List.takeWhile_cons_of_neg ha, List.filter_cons_of_neg ha, eq_comm,
        List.filter_eq_nil_iff]
      exact forall_not_of_pairwise h ha

theorem dropWhile_eq_filter (h : l.Pairwise fun x y => p y → p x) :
    l.dropWhile p = l.filter fun x => !p x := by
  induction l with
  | nil => rfl
  | cons a l ih =>
    by_cases ha : p a
    · rw [List.dropWhile_cons_of_pos ha, List.filter_cons_of_neg (by simp [ha]), ih h.of_cons]
    · rw [List.dropWhile_cons_of_neg ha, List.filter_cons_of_pos (by simp [ha]), eq_comm]
      congr 1
      rw [List.filter_eq_self]
      intro b hb
      simpa using forall_not_of_pairwise h ha b hb

end Beginning

/-! ### A run is a whole group -/

/-- Behind a spec, what is of its group comes first. -/
theorem pairwise_of_contiguous {s : Spec} {rest : List Spec}
    (h : (s :: rest).Triplewise Together) :
    rest.Pairwise fun a b => b.group == s.group → a.group == s.group := by
  refine (List.triplewise_cons.1 h).1.imp ?_
  intro a b hab hb
  rw [beq_iff_eq] at hb ⊢
  exact hab hb.symm

/-- **A run is a whole group**, if the specs of a group stand together. -/
theorem ofGroup_eq_filter (h : specs.Triplewise Together) (group : Int) :
    ofGroup group specs = specs.filter (·.group == group) := by
  induction specs with
  | nil => rfl
  | cons s rest ih =>
    by_cases hs : s.group = group
    · subst hs
      rw [ofGroup_cons_of_eq rfl, run, takeWhile_eq_filter (pairwise_of_contiguous h),
        List.filter_cons_of_pos (by simp)]
    · rw [ofGroup_cons_of_ne hs, ih (List.triplewise_cons.1 h).2,
        List.filter_cons_of_neg (by simpa using hs)]

theorem exists_firstIndex?_iff {group : Int} :
    (∃ index, firstIndex? group specs = some index) ↔ ∃ s ∈ specs, s.group = group := by
  rw [← Option.isSome_iff_exists, firstIndex?, List.findIdx?_isSome]
  simp

theorem runAt?_firstIndex? {group : Int} {index : Nat}
    (h : firstIndex? group specs = some index) :
    runAt? index specs = some (ofGroup group specs) := by
  have hlt : index < specs.length := (List.findIdx?_eq_some_iff_getElem.1 h).1
  have hstart : ¬ (index : Int) < 0 := by omega
  have hinside : 0 ≤ (index : Int) ∧ (index : Int) < specs.length := by omega
  simp only [runAt?, if_neg hstart, if_pos hinside, Int.toNat_natCast, ofGroup, h]

/-! ### A table is its runs -/

/-- The groups of a table in the order in which they appear in it. -/
def appearing (specs : List Spec) : List Int := (specs.map Spec.group).eraseDups

theorem appearing_cons (s : Spec) (rest : List Spec) :
    appearing (s :: rest) = s.group :: appearing (rest.filter fun x => !(x.group == s.group)) := by
  rw [appearing, List.map_cons, List.eraseDups_cons, List.filter_map]
  rfl

theorem mem_appearing {group : Int} : group ∈ appearing specs ↔ ∃ s ∈ specs, s.group = group := by
  rw [appearing, List.mem_eraseDups, List.mem_map]

theorem flatMap_filter_appearing (specs : List Spec) (h : specs.Triplewise Together) :
    ((appearing specs).flatMap fun group => specs.filter (·.group == group)) = specs := by
  cases specs with
  | nil => rfl
  | cons s rest =>
    have hbegins := pairwise_of_contiguous h
    -- what is not of the first spec's group is the end of the table
    obtain ⟨others, hothers⟩ : ∃ others, rest.filter (fun x => !(x.group == s.group)) = others :=
      ⟨_, rfl⟩
    have hsplit : rest.filter (·.group == s.group) ++ others = rest := by
      rw [← hothers, ← takeWhile_eq_filter hbegins, ← dropWhile_eq_filter hbegins,
        List.takeWhile_append_dropWhile]
    have htogether : others.Triplewise Together := by
      have hrest := (List.triplewise_cons.1 h).2
      rw [← hsplit] at hrest
      exact (List.triplewise_append.1 hrest).2.1
    have hfilter : ∀ group ∈ appearing others,
        (s :: rest).filter (·.group == group) = others.filter (·.group == group) := by
      intro group hgroup
      obtain ⟨x, hx, rfl⟩ := mem_appearing.1 hgroup
      rw [← hothers, List.mem_filter] at hx
      have hne : x.group ≠ s.group := by simpa using hx.2
      rw [List.filter_cons_of_neg (by simpa using Ne.symm hne), ← hothers, List.filter_filter]
      apply List.filter_congr
      intro y _
      by_cases hy : y.group = x.group
      · simp [hy, hne]
      · simp [hy]
    rw [appearing_cons, hothers, List.flatMap_cons, List.filter_cons_of_pos (by simp),
      List.flatMap_congr hfilter, flatMap_filter_appearing others htogether, List.cons_append, hsplit]
termination_by specs.length
decreasing_by
  rename_i hspecs
  rw [← hothers, hspecs, List.length_cons]
  exact Nat.lt_succ_of_le (List.length_filter_le _ _)

theorem flatMap_ofGroup_appearing (h : specs.Triplewise Together) :
    ((appearing specs).flatMap fun group => ofGroup group specs) = specs := by
  simp only [ofGroup_eq_filter h]
  exact flatMap_filter_appearing specs h

/-- **A table that passes its check is made of its runs**: each group with a spec is found whole,
    and the groups in the order in which they appear are the table, nothing lost or doubled. -/
theorem checked_table_is_its_runs (h : check specs groups = .ok ()) :
    (∀ group, (∃ s ∈ specs, s.group = group) →
        ∃ index, firstIndex? group specs = some index ∧
          runAt? index specs = some (ofGroup group specs) ∧
          ofGroup group specs = specs.filter (·.group == group)) ∧
      ((appearing specs).flatMap fun group => ofGroup group specs) = specs := by
  have htogether := (orderly_of_check h).contiguous
  constructor
  · intro group howned
    obtain ⟨index, hindex⟩ := exists_firstIndex?_iff.2 howned
    exact ⟨index, hindex, runAt?_firstIndex? hindex, ofGroup_eq_filter htogether group⟩
  · exact flatMap_ofGroup_appearing htogether

/-- Three groups, two of which have names that are alike. -/
theorem checked_table_is_its_runs_of_three_groups :
    let specs : List Spec :=
      [⟨7, "n", .int⟩, ⟨7, "all", .bool⟩, ⟨-1, "N", .string⟩, ⟨3, "All", .color⟩, ⟨3, "n", .bool⟩]
    let groups : Groups := [(10, 3), (11, 3), (12, -1)]
    check specs groups = .ok () ∧ appearing specs = [7, -1, 3] ∧
      (∃ index, firstIndex? 3 specs = some index ∧
        runAt? index specs = some [⟨3, "All", .color⟩, ⟨3, "n", .bool⟩]) ∧
      ([7, -1, 3].flatMap fun group => ofGroup group specs) = specs := by
  intro specs groups
  have hcheck : check specs groups = .ok () := rfl
  have happear : appearing specs = [7, -1, 3] := by decide
  obtain ⟨hruns, htable⟩ := checked_table_is_its_runs hcheck
  obtain ⟨index, hindex, hrun, hgroup⟩ := hruns 3 ⟨⟨3, "n", .bool⟩, by decide, rfl⟩
  refine ⟨hcheck, happear, ⟨index, hindex, ?_⟩, ?_⟩
  · rw [hrun, hgroup]
    decide
  · rw [← happear]
    exact htable

end CommandLang.Spec
