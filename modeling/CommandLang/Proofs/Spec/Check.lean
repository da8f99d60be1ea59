/-
  CommandLang/Proofs/Spec/Check.lean
  ==================================
  **What the check of a table of specs makes sure of.**

  The check goes through the table once.  Of the specs it has passed it remembers the group at hand,
  the names in that group and the groups it has left, and this is all that matters of them
  (`Progress.Describes`): the next spec passes exactly if it may follow them (`Follows`,
  `Describes.passes_iff`).  A table is orderly exactly if each of its specs may follow those before
  it (`orderly_concat_iff`).

  Main statement: a table and a mapping of commands to groups pass the check exactly if the table is
  orderly and every group in use has a spec (`check_passes_iff_sound`).
-/
import CommandLang.Proofs.Except
import CommandLang.Spec.Check
import Mathlib.Data.List.Basic
import Mathlib.Data.List.Induction
import Mathlib.Data.List.Triplewise

namespace CommandLang.Spec

variable {specs earlier : List Spec} {s : Spec} {groups : Groups}

/-! ### Tables in order -/

/-- If the outer two specs are in one group, then so is the one between them. -/
def Together (a b c : Spec) : Prop := a.group = c.group → b.group = a.group

structure Orderly (specs : List Spec) : Prop where
  typed : ∀ s ∈ specs, s.kind ≠ .untyped
  /-- Any three specs in the order of the table. -/
  contiguous : specs.Triplewise Together
  /-- The first spec of a group is no flag. -/
  default : ∀ group, ∀ s ∈ specs.find? (·.group == group), s.kind ≠ .bool
  apart : specs.Pairwise fun a b => a.group = b.group → a.name.fold ≠ b.name.fold

/-- The table is in order, and every group that a command is mapped to has a spec. -/
structure Sound (specs : List Spec) (groups : Groups) : Prop extends Orderly specs where
  owned : ∀ group ∈ Keyed.values groups, ∃ s ∈ specs, s.group = group

/-! ### One spec more -/

def lastGroup? (specs : List Spec) : Option Int := specs.getLast?.map Spec.group

@[simp] theorem lastGroup?_concat (specs : List Spec) (s : Spec) :
    lastGroup? (specs ++ [s]) = some s.group := by
  simp [lastGroup?]

theorem exists_of_lastGroup? {group : Int} (h : lastGroup? specs = some group) :
    ∃ s ∈ specs, s.group = group := by
  obtain ⟨s, hs, rfl⟩ := Option.map_eq_some_iff.1 h
  exact ⟨s, List.mem_of_getLast? hs, rfl⟩

/-- The spec may stand next in a table, behind these: it goes on with the last group, or begins a
    group that is not there yet. -/
structure Follows (earlier : List Spec) (s : Spec) : Prop where
  typed : s.kind ≠ .untyped
  entered : lastGroup? earlier = some s.group ∨
    (∀ e ∈ earlier, e.group ≠ s.group) ∧ s.kind ≠ .bool
  apart : ∀ e ∈ earlier, e.group = s.group → e.name.fold ≠ s.name.fold

/-- A spec does not tear its group apart if the group is the last one or is not there yet. -/
theorem contiguous_concat_iff :
    (earlier ++ [s]).Triplewise Together ↔
      earlier.Triplewise Together ∧
        ((∃ e ∈ earlier, e.group = s.group) → lastGroup? earlier = some s.group) := by
  rw [List.triplewise_append]
  simp only [List.triplewise_singleton, List.pairwise_singleton, List.mem_singleton, forall_eq,
    true_and, implies_true]
  apply and_congr_right
  intro htogether
  -- the last of the specs stands between any other of them and the new one
  rcases List.eq_nil_or_concat' earlier with rfl | ⟨before, last, rfl⟩
  · simp
  · rw [List.triplewise_append] at htogether
    simp only [List.mem_singleton, forall_eq] at htogether
    obtain ⟨-, -, -, hlast⟩ := htogether
    rw [List.pairwise_append, lastGroup?_concat, Option.some.injEq]
    simp only [List.pairwise_singleton, List.mem_singleton, forall_eq, true_and]
    constructor
    · rintro ⟨-, hbefore⟩ ⟨e, he, hgroup⟩
      rcases List.mem_append.1 he with he | he
      · exact (hbefore e he hgroup).trans hgroup
      · rw [← List.mem_singleton.1 he]
        exact hgroup
    · intro h
      have hgroup : ∀ e ∈ before ++ [last], e.group = s.group → last.group = s.group :=
        fun e he heq => h ⟨e, he, heq⟩
      constructor
      · refine hlast.imp_of_mem ?_
        intro a b ha _ hab heq
        exact hab (heq.trans (hgroup a (List.mem_append_left _ ha) heq).symm)
      · intro a ha heq
        exact (hgroup a (List.mem_append_left _ ha) heq).trans heq.symm

theorem default_concat_iff :
    (∀ group, ∀ x ∈ (earlier ++ [s]).find? (·.group == group), x.kind ≠ .bool) ↔
      (∀ group, ∀ x ∈ earlier.find? (·.group == group), x.kind ≠ .bool) ∧
        ((∀ e ∈ earlier, e.group ≠ s.group) → s.kind ≠ .bool) := by
  constructor
  · intro h
    constructor
    · intro group x hx
      apply h group x
      rw [List.find?_append, Option.mem_def.1 hx]
      rfl
    · intro hnew
      apply h s.group s
      have hnone : earlier.find? (·.group == s.group) = none := by
        simpa [List.find?_eq_none] using hnew
      simp [List.find?_append, hnone]
  · rintro ⟨hearlier, hnew⟩ group x hx
    rw [List.find?_append] at hx
    cases hfind : earlier.find? (·.group == group) with
    | some e =>
      obtain rfl : e = x := by simpa [hfind] using hx
      exact hearlier group e hfind
    | none =>
      rw [hfind, Option.none_or] at hx
      obtain rfl : x = s := by simpa using List.mem_of_find?_eq_some hx
      obtain rfl : x.group = group := by simpa using List.find?_some hx
      apply hnew
      simpa [List.find?_eq_none] using hfind

/-- **A table is orderly exactly if each spec may follow those before it.** -/
theorem orderly_concat_iff : Orderly (earlier ++ [s]) ↔ Orderly earlier ∧ Follows earlier s := by
  have hlast : lastGroup? earlier = some s.group → ∃ e ∈ earlier, e.group = s.group :=
    exists_of_lastGroup?
  constructor
  · rintro ⟨htyped, hcontiguous, hdefault, hapart⟩
    rw [contiguous_concat_iff] at hcontiguous
    rw [default_concat_iff] at hdefault
    rw [List.pairwise_append] at hapart
    refine ⟨⟨?_, hcontiguous.1, hdefault.1, hapart.1⟩, ?_, ?_, ?_⟩
    · intro e he
      exact htyped e (List.mem_append_left _ he)
    · exact htyped s (List.mem_append_right _ List.mem_cons_self)
    · by_cases hnew : ∃ e ∈ earlier, e.group = s.group
      · exact .inl (hcontiguous.2 hnew)
      · have hnew' : ∀ e ∈ earlier, e.group ≠ s.group := fun e he heq => hnew ⟨e, he, heq⟩
        exact .inr ⟨hnew', hdefault.2 hnew'⟩
    · intro e he
      exact hapart.2.2 e he s List.mem_cons_self
  · rintro ⟨⟨htyped, hcontiguous, hdefault, hapart⟩, hs, hentered, hfresh⟩
    refine ⟨?_, ?_, ?_, ?_⟩
    · intro e he
      rcases List.mem_append.1 he with he | he
      · exact htyped e he
      · rwa [List.mem_singleton.1 he]
    · rw [contiguous_concat_iff]
      refine ⟨hcontiguous, ?_⟩
      rintro ⟨e, he, heq⟩
      rcases hentered with hsame | ⟨hnew, -⟩
      · exact hsame
      · exact absurd heq (hnew e he)
    · rw [default_concat_iff]
      refine ⟨hdefault, ?_⟩
      intro hnew
      rcases hentered with hsame | ⟨-, hflag⟩
      · obtain ⟨e, he, heq⟩ := hlast hsame
        exact absurd heq (hnew e he)
      · exact hflag
    · rw [List.pairwise_append]
      refine ⟨hapart, List.pairwise_singleton _ _, ?_⟩
      intro e he x hx
      rw [List.mem_singleton.1 hx]
      exact hfresh e he

theorem Orderly.of_append {rest : List Spec} (h : Orderly (specs ++ rest)) : Orderly specs := by
  induction rest using List.reverseRecOn with
  | nil => rwa [List.append_nil] at h
  | append_singleton rest s ih =>
    rw [← List.append_assoc] at h
    exact ih (orderly_concat_iff.1 h).1

theorem orderly_nil : Orderly [] :=
  ⟨by simp, .nil, by simp, .nil⟩

/-! ### One step of the check -/

namespace Progress

variable {p p' : Progress}

/-- All that matters of the specs before is remembered, the group at hand being this one, if any. -/
structure Describes (p : Progress) (earlier : List Spec) (group : Option Int) : Prop where
  current : p.current = group
  finished : ∀ g, g ∈ p.finished ↔ group ≠ some g ∧ ∃ e ∈ earlier, e.group = g
  names : ∀ n, n ∈ p.names ↔ ∃ e ∈ earlier, group = some e.group ∧ e.name.fold = n

theorem describes_nil : Describes {} [] (lastGroup? []) :=
  ⟨rfl, by simp, by simp⟩

theorem enter_eq_ok_iff :
    p.enter s = .ok p' ↔
      (p.current = some s.group ∧ p' = p) ∨
        p.current ≠ some s.group ∧ s.group ∉ p.finished ∧ s.kind ≠ .bool ∧
          p' = ⟨p.current.toList ++ p.finished, some s.group, []⟩ := by
  rw [enter]
  split_ifs with hcurrent hfinished hflag
  · simp [hcurrent, eq_comm]
  · rw [List.contains_iff_mem] at hfinished
    simp [hcurrent, hfinished]
  · simp [hcurrent, hflag]
  · rw [List.contains_iff_mem] at hfinished
    simp [hcurrent, hfinished, hflag, eq_comm]

theorem add_eq_ok_iff :
    p.add s = .ok p' ↔
      s.kind ≠ .untyped ∧ ∃ q, p.enter s = .ok q ∧ s.name.fold ∉ q.names ∧
        p' = { q with names := s.name.fold :: q.names } := by
  rw [add]
  split_ifs with htyped
  · simp [htyped]
  · rw [bind_eq_ok_iff]
    simp only [ne_eq, htyped, not_false_eq_true, true_and]
    apply exists_congr
    intro q
    apply and_congr_right
    intro _
    split_ifs with hname
    · rw [List.contains_iff_mem] at hname
      simp [hname]
    · rw [List.contains_iff_mem] at hname
      simp [hname, eq_comm]

theorem Describes.mem_finished_iff {group : Option Int} (h : p.Describes earlier group)
    (hother : p.current ≠ some s.group) :
    s.group ∈ p.finished ↔ ∃ e ∈ earlier, e.group = s.group := by
  rw [h.finished, ← h.current]
  exact and_iff_right hother

theorem Describes.enter (h : p.Describes earlier (lastGroup? earlier))
    (hp : p.enter s = .ok p') : p'.Describes earlier (some s.group) := by
  rcases enter_eq_ok_iff.1 hp with ⟨hsame, rfl⟩ | ⟨hother, hnew, -, rfl⟩
  · rw [← hsame, h.current]
    exact h
  · rw [h.mem_finished_iff hother] at hnew
    refine ⟨rfl, ?_, ?_⟩
    · intro g
      -- the group that is left is the one of the last spec
      have hleft : p.current = some g → ∃ e ∈ earlier, e.group = g := by
        intro hg
        exact exists_of_lastGroup? (h.current ▸ hg)
      rw [List.mem_append, Option.mem_toList, h.finished, ← h.current]
      constructor
      · rintro (hg | ⟨-, hg⟩)
        · exact ⟨fun heq => hother (by rw [hg, heq]), hleft hg⟩
        · refine ⟨?_, hg⟩
          rintro ⟨⟩
          exact hnew hg
      · rintro ⟨-, hg⟩
        by_cases hcurrent : p.current = some g
        · exact .inl hcurrent
        · exact .inr ⟨hcurrent, hg⟩
    · intro n
      simp only [List.not_mem_nil, false_iff]
      rintro ⟨e, he, heq, -⟩
      exact hnew ⟨e, he, (Option.some.inj heq).symm⟩

theorem Describes.exists_enter_iff (h : p.Describes earlier (lastGroup? earlier)) :
    (∃ q, p.enter s = .ok q) ↔
      lastGroup? earlier = some s.group ∨ (∀ e ∈ earlier, e.group ≠ s.group) ∧ s.kind ≠ .bool := by
  simp only [enter_eq_ok_iff]
  rw [← h.current]
  by_cases hcurrent : p.current = some s.group
  · simp [hcurrent]
  · simp [hcurrent, h.mem_finished_iff hcurrent]

/-- **What is remembered describes the specs also after one spec more.** -/
theorem Describes.add (h : p.Describes earlier (lastGroup? earlier)) (hp : p.add s = .ok p') :
    p'.Describes (earlier ++ [s]) (lastGroup? (earlier ++ [s])) := by
  obtain ⟨-, q, hq, -, rfl⟩ := add_eq_ok_iff.1 hp
  obtain ⟨hcurrent, hfinished, hnames⟩ := h.enter hq
  rw [lastGroup?_concat]
  refine ⟨hcurrent, ?_, ?_⟩
  · intro g
    simp only [hfinished, List.mem_append, List.mem_singleton, or_and_right, exists_or,
      exists_eq_left]
    apply and_congr_right
    intro hg
    simp [Option.some.injEq] at hg
    simp [hg]
  · intro n
    simp only [List.mem_cons, List.not_mem_nil, or_false, hnames, List.mem_append, or_and_right,
      exists_or, exists_eq_left, true_and]
    rw [or_comm, eq_comm]

/-- **A spec passes exactly if it may follow those before it.** -/
theorem Describes.passes_iff (h : p.Describes earlier (lastGroup? earlier)) :
    (∃ p', p.add s = .ok p') ↔ Follows earlier s := by
  constructor
  · rintro ⟨p', hp⟩
    obtain ⟨htyped, q, hq, hfresh, -⟩ := add_eq_ok_iff.1 hp
    rw [(h.enter hq).names] at hfresh
    refine ⟨htyped, h.exists_enter_iff.1 ⟨q, hq⟩, ?_⟩
    intro e he hgroup hfold
    exact hfresh ⟨e, he, by rw [hgroup], hfold⟩
  · rintro ⟨htyped, hentered, hfresh⟩
    obtain ⟨q, hq⟩ := h.exists_enter_iff.2 hentered
    refine ⟨_, add_eq_ok_iff.2 ⟨htyped, q, hq, ?_, rfl⟩⟩
    rw [(h.enter hq).names]
    rintro ⟨e, he, hgroup, hfold⟩
    exact hfresh e he (Option.some.inj hgroup).symm hfold

theorem Describes.foldlM_iff (h : p.Describes earlier (lastGroup? earlier))
    (hearlier : Orderly earlier) :
    (∃ p', specs.foldlM Progress.add p = .ok p') ↔ Orderly (earlier ++ specs) := by
  induction specs generalizing p earlier with
  | nil => simp [hearlier, pure, Except.pure]
  | cons s rest ih =>
    rw [List.append_cons]
    simp only [List.foldlM_cons, bind_eq_ok_iff]
    constructor
    · rintro ⟨p', q, hq, hrest⟩
      have hfollows := h.passes_iff.1 ⟨q, hq⟩
      exact (ih (h.add hq) (orderly_concat_iff.2 ⟨hearlier, hfollows⟩)).1 ⟨p', hrest⟩
    · intro horderly
      have hs := horderly.of_append
      obtain ⟨q, hq⟩ := h.passes_iff.2 (orderly_concat_iff.1 hs).2
      obtain ⟨p', hrest⟩ := (ih (h.add hq) hs).2 horderly
      exact ⟨p', q, hq, hrest⟩

end Progress

/-! ### The whole check -/

theorem checkSpecs_eq_ok_iff : checkSpecs specs = .ok () ↔ Orderly specs := by
  have hfold : (∃ p, specs.foldlM Progress.add {} = .ok p) ↔ Orderly ([] ++ specs) :=
    Progress.describes_nil.foldlM_iff orderly_nil
  rw [List.nil_append] at hfold
  rw [← hfold, checkSpecs, bind_eq_ok_iff]
  simp [pure, Except.pure]

theorem checkGroups_eq_ok_iff :
    checkGroups specs groups = .ok () ↔
      ∀ group ∈ Keyed.values groups, ∃ s ∈ specs, s.group = group := by
  have hnone : groups.find? (fun entry => !specs.any (·.group == entry.2)) = none ↔
      ∀ group ∈ Keyed.values groups, ∃ s ∈ specs, s.group = group := by
    rw [Keyed.values, List.forall_mem_map]
    simp
  rw [← hnone, checkGroups]
  cases groups.find? fun entry => !specs.any (·.group == entry.2) <;> simp

theorem check_eq_ok_iff_both :
    check specs groups = .ok () ↔
      checkSpecs specs = .ok () ∧ checkGroups specs groups = .ok () := by
  rw [check, bind_eq_ok_iff]
  exact ⟨fun ⟨_, h⟩ => h, fun h => ⟨(), h⟩⟩

theorem orderly_of_check (h : check specs groups = .ok ()) : Orderly specs :=
  checkSpecs_eq_ok_iff.1 (check_eq_ok_iff_both.1 h).1

/-- **A table passes its check exactly if it is sound.** -/
theorem check_passes_iff_sound (specs : List Spec) (groups : Groups) :
    check specs groups = .ok () ↔ Sound specs groups := by
  rw [check_eq_ok_iff_both, checkSpecs_eq_ok_iff, checkGroups_eq_ok_iff]
  constructor
  · rintro ⟨horderly, howned⟩
    exact ⟨horderly, howned⟩
  · rintro ⟨horderly, howned⟩
    exact ⟨horderly, howned⟩

end CommandLang.Spec
