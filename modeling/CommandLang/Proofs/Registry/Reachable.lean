/-
  CommandLang/Proofs/Registry/Reachable.lean
  ==========================================
  **The registries that come about.**

  A registry comes about by making a new one and performing operations on it.  Every such registry
  is in step with a log that starts above the ids of all commands (`exists_log_of_reachable`), so
  that the id it issues next is no command's (`nextId_ne_id_of_reachable`).
-/
import CommandLang.Proofs.Registry.Ledger

namespace CommandLang.Registry

/-- A registry that operations make out of a new one. -/
inductive Reachable (v : Vocabulary) : Registry → Prop where
  | create {firstId : Int} {source : Text} {r : Registry} :
      create v.commands firstId source = .ok r → Reachable v r
  | perform {r : Registry} (op : Operation) : Reachable v r → Reachable v (r.perform v op).registry

variable {v : Vocabulary} {r : Registry}

theorem reachable_performAll (h : Reachable v r) (ops : List Operation) :
    Reachable v (r.performAll v ops).registry := by
  induction ops generalizing r with
  | nil => exact h
  | cons op ops ih => exact ih (h.perform op)

theorem exists_log_of_reachable (h : Reachable v r) :
    ∃ l : Ledger, l.Represents r ∧ v.commands.maxId < l.firstId := by
  induction h with
  | @create firstId source r h =>
    unfold create at h
    split at h
    · cases h
    · rename_i habove
      cases h
      exact ⟨_, Ledger.represents_empty firstId source, by simpa using habove⟩
  | @perform r op _ ih =>
    obtain ⟨l, hl, habove⟩ := ih
    exact ⟨l.after v op, hl.perform op, by rwa [Ledger.firstId_after]⟩

/-- The next id is no command's. -/
theorem nextId_ne_id_of_reachable (h : Reachable v r) {c : Command} (hc : c ∈ v.commands) :
    r.nextId ≠ c.id := by
  obtain ⟨l, hl, habove⟩ := exists_log_of_reachable h
  have hle := Catalog.le_maxId hc
  rw [hl.nextId]
  omega

end CommandLang.Registry
