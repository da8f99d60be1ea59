/-
  CommandLang/Proofs/Registry/Sequence.lean
  =========================================
  **Definitions that are resolved one after another.**

  To try definitions is to resolve them in a row and to note an outcome for each (`tryAll_result`),
  as long as no scan comes to a fault; the registry is left as resolving leaves it
  (`registry_tryAll`).  Nothing clears it in between.  So a registry that was empty at first has an
  instance for every definition that was accepted with arguments, in the order of the definitions,
  and the ids go up one by one (`instances_resolveAll`).
-/
import CommandLang.Proofs.Except
import CommandLang.Proofs.Registry.Ledger

namespace CommandLang.Registry

variable {v : Vocabulary} {r : Registry} {d : Text} {definitions : List Text}

/-- Resolves definitions in a row, and gives each with what it was resolved to. -/
def resolveAll (v : Vocabulary) (r : Registry) :
    List Text → Reply (List (Text × Except Failure Int))
  | [] => ⟨[], r, []⟩
  | d :: rest =>
    let first := r.resolve v d
    let others := resolveAll v first.registry rest
    ⟨(d, first.result) :: others.result, others.registry, first.log ++ others.log⟩

/-- Resolving in a row is a sequence of operations. -/
theorem performAll_resolve (v : Vocabulary) (r : Registry) (definitions : List Text) :
    r.performAll v (definitions.map .resolve) =
      (r.resolveAll v definitions).map fun answers => answers.map fun a => .resolved a.2 := by
  induction definitions generalizing r with
  | nil => rfl
  | cons d rest ih =>
    rw [List.map_cons, performAll, ih]
    rfl

theorem map_fst_resolveAll (v : Vocabulary) (r : Registry) (definitions : List Text) :
    (r.resolveAll v definitions).result.map Prod.fst = definitions := by
  induction definitions generalizing r with
  | nil => rfl
  | cons d rest ih => exact congrArg (d :: ·) (ih (r.resolve v d).registry)

/-! ### Trying definitions -/

theorem tryAll_cons_of_error {f : Scan.Fault} (h : (r.tryParse v d).result = .error f) :
    (r.tryAll v (d :: definitions)).result = .error f ∧
      (r.tryAll v (d :: definitions)).registry = (r.resolve v d).registry := by
  rw [← tryParse_registry, tryAll]
  split
  · rename_i htry
    rw [htry] at h ⊢
    cases h
    exact ⟨rfl, rfl⟩
  · rename_i htry
    rw [htry] at h
    cases h

theorem tryAll_cons_of_ok {o : Outcome} (h : (r.tryParse v d).result = .ok o) :
    (r.tryAll v (d :: definitions)).result =
        ((r.resolve v d).registry.tryAll v definitions).result.map (o :: ·) ∧
      (r.tryAll v (d :: definitions)).registry =
        ((r.resolve v d).registry.tryAll v definitions).registry := by
  rw [← tryParse_registry, tryAll]
  split
  · rename_i htry
    rw [htry] at h
    cases h
  · rename_i htry
    rw [htry] at h ⊢
    cases h
    exact ⟨rfl, rfl⟩

/-- The outcomes are noted of what the definitions are resolved to, up to the first fault. -/
theorem tryAll_result (v : Vocabulary) (r : Registry) (definitions : List Text) :
    (r.tryAll v definitions).result =
      (r.resolveAll v definitions).result.mapM fun a => tried a.1 a.2 := by
  induction definitions generalizing r with
  | nil => rfl
  | cons d rest ih =>
    rw [resolveAll, List.mapM_cons, ← tryParse_result]
    cases htry : (r.tryParse v d).result with
    | error f => exact (tryAll_cons_of_error htry).1
    | ok o =>
      rw [(tryAll_cons_of_ok htry).1, ih]
      rfl

theorem registry_tryAll {outcomes : List Outcome}
    (h : (r.tryAll v definitions).result = .ok outcomes) :
    (r.tryAll v definitions).registry = (r.resolveAll v definitions).registry := by
  induction definitions generalizing r outcomes with
  | nil => rfl
  | cons d rest ih =>
    cases htry : (r.tryParse v d).result with
    | error f =>
      rw [(tryAll_cons_of_error htry).1] at h
      cases h
    | ok o =>
      obtain ⟨hresult, hregistry⟩ := tryAll_cons_of_ok htry
      rw [hresult] at h
      obtain ⟨others, hothers, -⟩ := map_eq_ok_iff.1 h
      rw [hregistry]
      exact ih hothers

theorem exists_tried_iff {result : Except Failure Int} :
    (∃ o, tried d result = .ok o) ↔ ∀ f, result ≠ .error (.fault f) := by
  rcases result with (reason | f) | id
  · simp [tried]
  · simp [tried]
  · simp [tried]

/-- Definitions are tried to the end if none of them comes to a fault. -/
theorem exists_tryAll_iff :
    (∃ outcomes, (r.tryAll v definitions).result = .ok outcomes) ↔
      ∀ a ∈ (r.resolveAll v definitions).result, ∀ f, a.2 ≠ .error (.fault f) := by
  rw [tryAll_result, exists_mapM_ok_iff]
  exact forall₂_congr fun _ _ => exists_tried_iff

/-! ### What is stored -/

/-- In a run that does not clear, all that was made is still there. -/
theorem stored_ofRun_resolve (v : Vocabulary) (firstId : Int) (definitions : List Text) :
    (Ledger.ofRun v firstId (definitions.map .resolve)).stored =
      (definitions.filterMap fun d => v.made? (.resolve d)).mapIdx fun n e =>
        e.numbered (firstId + n) := by
  have hrecords := Ledger.records_ofRun v firstId (definitions.map .resolve)
  have hlive := Ledger.live_ofRun v firstId (definitions.map .resolve)
  have hkept : (definitions.map Operation.resolve).rtakeWhile (· ≠ .clear) =
      definitions.map .resolve := by
    rw [List.rtakeWhile_eq_self_iff]
    simp
  rw [hkept] at hlive
  have hgone : (Ledger.ofRun v firstId (definitions.map .resolve)).gone = [] := by
    rw [← hlive] at hrecords
    exact List.append_left_eq_self.1 hrecords
  rw [Ledger.stored, hlive, hgone, Ledger.firstId_ofRun, List.filterMap_map]
  simp

/-- An empty registry stores what the definitions make, in their order. -/
theorem instances_resolveAll (v : Vocabulary) (source : Text) (firstId : Int)
    (definitions : List Text) :
    ((empty source firstId).resolveAll v definitions).registry.instances =
      (definitions.filterMap fun d => v.made? (.resolve d)).mapIdx fun n e =>
        e.numbered (firstId + n) := by
  have hregistry :
      ((empty source firstId).performAll v (definitions.map .resolve)).registry =
        ((empty source firstId).resolveAll v definitions).registry :=
    congrArg Reply.registry (performAll_resolve v _ definitions)
  have hrep := (Ledger.represents_empty firstId source).performAll (v := v)
    (definitions.map .resolve)
  rw [← hregistry, instances, hrep.entries, Keyed.values, List.map_map]
  simp only [Function.comp_def, List.map_id']
  exact stored_ofRun_resolve v firstId definitions

end CommandLang.Registry
