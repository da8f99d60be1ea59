/-
  CommandLang/Proofs/Registry/Ledger.lean
  =======================================
  **A registry keeps an append-only log.**

  The log (`Ledger`) has the records of all operations that made an instance, the oldest first, and
  a mark where the store was last cleared.  A record's id is its position, counted from the first
  id; so the ids go up one by one, and clearing moves the mark and nothing else.

  Main statement: whatever is done to a new registry, it shows what the log has
  (`performAll_mirrors`).  One operation keeps the registry in step with the log
  (`Represents.perform`), and a run is one operation after another.
-/
import CommandLang.Proofs.Catalog
import CommandLang.Proofs.Registry.Resolution
import Mathlib.Data.List.DropRight

namespace CommandLang

/-- The records of all instances that were made, the oldest first, in two parts. -/
structure Ledger where
  /-- The id of the first record. -/
  firstId : Int
  /-- What was made before the store was last cleared. -/
  gone : List Record := []
  /-- What has been made since. -/
  live : List Record := []
deriving DecidableEq, Repr

namespace Ledger

def issued (l : Ledger) : Nat := l.gone.length + l.live.length

def ids (l : Ledger) : List Int := (List.range l.issued).map fun (n : Nat) => l.firstId + n

/-- The instances made since the store was last cleared. -/
def stored (l : Ledger) : List Instance :=
  l.live.mapIdx fun n e => e.numbered (l.firstId + (l.gone.length + n : Nat))

def append (l : Ledger) (e : Record) : Ledger := { l with live := l.live ++ [e] }

/-- The log with the mark at its end. -/
def clear (l : Ledger) : Ledger := { l with gone := l.gone ++ l.live, live := [] }

def after (v : Vocabulary) (l : Ledger) (op : Registry.Operation) : Ledger :=
  match v.made? op with
  | some e => l.append e
  | none => if op = .clear then l.clear else l

def ofRun (v : Vocabulary) (firstId : Int) (ops : List Registry.Operation) : Ledger :=
  ops.foldl (after v) ⟨firstId, [], []⟩

variable {v : Vocabulary} {l : Ledger} {r : Registry}

theorem after_of_made? {op : Registry.Operation} {e : Record} (h : v.made? op = some e) :
    l.after v op = l.append e := by
  simp [after, h]

theorem after_clear (v : Vocabulary) (l : Ledger) : l.after v .clear = l.clear := rfl

theorem after_of_idle {op : Registry.Operation} (h : v.made? op = none) (hc : op ≠ .clear) :
    l.after v op = l := by
  simp [after, h, hc]

theorem firstId_after (v : Vocabulary) (l : Ledger) (op : Registry.Operation) :
    (l.after v op).firstId = l.firstId := by
  unfold after
  split
  · rfl
  · split <;> rfl

/-! ### The log of a run -/

theorem ofRun_concat (v : Vocabulary) (firstId : Int) (ops : List Registry.Operation)
    (op : Registry.Operation) :
    ofRun v firstId (ops ++ [op]) = (ofRun v firstId ops).after v op := by
  simp [ofRun]

theorem firstId_ofRun (v : Vocabulary) (firstId : Int) (ops : List Registry.Operation) :
    (ofRun v firstId ops).firstId = firstId := by
  induction ops using List.reverseRecOn with
  | nil => rfl
  | append_singleton ops op ih => rw [ofRun_concat, firstId_after, ih]

/-- The log has everything that the run made, in the order in which it was made. -/
theorem records_ofRun (v : Vocabulary) (firstId : Int) (ops : List Registry.Operation) :
    (ofRun v firstId ops).gone ++ (ofRun v firstId ops).live = ops.filterMap v.made? := by
  induction ops using List.reverseRecOn with
  | nil => rfl
  | append_singleton ops op ih =>
    rw [List.filterMap_append, ← ih, ofRun_concat]
    cases he : v.made? op with
    | some e => simp [after_of_made? he, append, he]
    | none =>
      by_cases hc : op = .clear
      · subst hc
        simp [after_clear, clear, he]
      · simp [after_of_idle he hc, he]

/-- Its second part has what was made after the last clear. -/
theorem live_ofRun (v : Vocabulary) (firstId : Int) (ops : List Registry.Operation) :
    (ofRun v firstId ops).live = (ops.rtakeWhile (· ≠ .clear)).filterMap v.made? := by
  induction ops using List.reverseRecOn with
  | nil => rfl
  | append_singleton ops op ih =>
    rw [ofRun_concat, List.rtakeWhile_concat]
    by_cases hc : op = .clear
    · subst hc
      simp [after_clear, clear]
    · simp only [ne_eq, hc, not_false_eq_true, decide_true, if_true]
      rw [List.filterMap_append, ← ih]
      cases he : v.made? op with
      | some e => simp [after_of_made? he, append, he]
      | none => simp [after_of_idle he hc, he]

/-! ### The ids on the log -/

@[simp] theorem issued_append (l : Ledger) (e : Record) : (l.append e).issued = l.issued + 1 := by
  simp [issued, append]
  omega

@[simp] theorem issued_clear (l : Ledger) : l.clear.issued = l.issued := by
  simp [issued, clear]

theorem ids_append (l : Ledger) (e : Record) :
    (l.append e).ids = l.ids ++ [l.firstId + l.issued] := by
  simp only [ids, issued_append, List.range_succ, List.map_append, List.map_cons, List.map_nil]
  rfl

theorem ids_after_of_none {op : Registry.Operation} (h : v.made? op = none) :
    (l.after v op).ids = l.ids := by
  by_cases hc : op = .clear
  · subst hc
    simp only [after_clear, ids, issued_clear]
    rfl
  · rw [after_of_idle h hc]

theorem ids_nodup (l : Ledger) : l.ids.Nodup := by
  unfold ids
  refine List.Pairwise.map _ ?_ List.nodup_range
  intro m n hne heq
  omega

theorem firstId_le_of_mem_ids {id : Int} (h : id ∈ l.ids) : l.firstId ≤ id := by
  obtain ⟨n, -, rfl⟩ := List.mem_map.1 h
  omega

@[simp] theorem stored_append (l : Ledger) (e : Record) :
    (l.append e).stored = l.stored ++ [e.numbered (l.firstId + l.issued)] := by
  simp [stored, append, issued, List.mapIdx_append]

@[simp] theorem stored_clear (l : Ledger) : l.clear.stored = [] := rfl

theorem map_id_stored (l : Ledger) :
    l.stored.map Instance.id =
      (List.range l.live.length).map fun (n : Nat) => l.firstId + (l.gone.length + n : Nat) := by
  apply List.ext_getElem
  · simp [stored]
  · intro n _ _
    simp [stored, Record.numbered]

theorem stored_rising (l : Ledger) : (l.stored.map Instance.id).Pairwise (· < ·) := by
  rw [map_id_stored]
  refine List.Pairwise.map _ ?_ List.pairwise_lt_range
  intro m n hlt
  omega

/-- The ids of what is stored were issued, so the next id is none of them. -/
theorem id_lt_of_mem_stored {x : Instance} (h : x ∈ l.stored) : x.id < l.firstId + l.issued := by
  have hid : x.id ∈ l.stored.map Instance.id := List.mem_map_of_mem h
  rw [map_id_stored] at hid
  obtain ⟨n, hn, heq⟩ := List.mem_map.1 hid
  have := List.mem_range.1 hn
  simp only [issued]
  omega

/-! ### A registry in step with a log -/

/-- The registry stores what the log says, each instance under its id, and goes on with the next
    id of the log. -/
structure Represents (l : Ledger) (r : Registry) : Prop where
  firstId : r.firstId = l.firstId
  nextId : r.nextId = l.firstId + l.issued
  entries : r.entries = l.stored.map fun x => (x.id, x)

theorem represents_empty (firstId : Int) (source : Text) :
    (⟨firstId, [], []⟩ : Ledger).Represents (Registry.empty source firstId) :=
  ⟨rfl, by simp [Registry.empty, issued], rfl⟩

theorem Represents.keys (h : l.Represents r) :
    Keyed.keys r.entries = l.stored.map Instance.id := by
  rw [h.entries, Keyed.keys, List.map_map]
  rfl

/-- The next id is no key, so that the instance under it comes after all others. -/
theorem Represents.store (h : l.Represents r) (e : Record) :
    (l.append e).Represents (r.store e.command e.definition e.arguments) := by
  have hnew : r.nextId ∉ Keyed.keys r.entries := by
    rw [h.keys, h.nextId]
    intro hmem
    obtain ⟨x, hx, heq⟩ := List.mem_map.1 hmem
    have := id_lt_of_mem_stored hx
    omega
  refine ⟨h.firstId, ?_, ?_⟩
  · change r.nextId + 1 = l.firstId + (l.append e).issued
    rw [h.nextId, issued_append]
    omega
  · change Keyed.put r.entries r.nextId ⟨r.nextId, e.command, e.definition, e.arguments⟩ = _
    rw [Keyed.put_of_not_mem hnew, h.entries, h.nextId, stored_append, List.map_append]
    rfl

theorem Represents.clear (h : l.Represents r) :
    l.clear.Represents { r with entries := [] } := by
  refine ⟨h.firstId, ?_, rfl⟩
  rw [issued_clear]
  exact h.nextId

/-- One operation keeps the registry in step with the log. -/
theorem Represents.perform (h : l.Represents r) (op : Registry.Operation) :
    (l.after v op).Represents (r.perform v op).registry := by
  cases he : v.made? op with
  | some e =>
    rw [after_of_made? he, (Registry.perform_of_made? he).1]
    exact h.store e
  | none =>
    by_cases hc : op = .clear
    · subst hc
      rw [after_clear, Registry.perform_clear]
      exact h.clear
    · rw [after_of_idle he hc, Registry.perform_registry_of_idle he hc]
      exact h

/-- A run of operations keeps the registry in step with the log. -/
theorem Represents.performAll (h : l.Represents r) (ops : List Registry.Operation) :
    (ops.foldl (after v) l).Represents (r.performAll v ops).registry := by
  induction ops generalizing l r with
  | nil => exact h
  | cons op ops ih => exact ih (h.perform op)

/-! ### What a registry in step with a log shows -/

/-- The registry answers from the log. -/
structure Mirrors (v : Vocabulary) (l : Ledger) (r : Registry) : Prop where
  keyed : r.entries = l.stored.map fun x => (x.id, x)
  /-- What is made next gets the id after those of the log. -/
  next : ∀ op e, v.made? op = some e → (r.perform v op).result.id? = some (l.firstId + l.issued)
  /-- All that was made since the last clear is listed, and nothing else … -/
  listed : (r.perform v .list).result = .listed l.stored
  /-- … in the order of its ids, none of which comes twice. -/
  rising : (l.stored.map Instance.id).Pairwise (· < ·)
  found : ∀ id x, (r.perform v (.find id)).result = .found (some x) ↔ x ∈ l.stored ∧ x.id = id
  contained : ∀ id,
    (r.perform v (.contains id)).result = .contained true ↔ ∃ x ∈ l.stored, x.id = id
  /-- The last id counts all that was made, also what was cleared. -/
  last : (r.perform v .lastId).result =
    .lastId (if l.issued = 0 then none else some (l.firstId + l.issued - 1))

theorem Represents.mirrors (h : l.Represents r) : l.Mirrors v r where
  keyed := h.entries
  next op e he := by rw [(Registry.perform_of_made? he).2, h.nextId]
  listed := by
    change Registry.Answer.listed (Keyed.values r.entries) = _
    rw [h.entries, Keyed.values, List.map_map]
    simp [Function.comp_def]
  rising := l.stored_rising
  found id x := by
    have hnodup : (Keyed.keys r.entries).Nodup := by
      rw [h.keys]
      exact l.stored_rising.imp fun hlt => by omega
    change Registry.Answer.found (Keyed.get? r.entries id) = _ ↔ _
    rw [Registry.Answer.found.injEq, Keyed.get?_eq_some_iff hnodup, h.entries, List.mem_map]
    constructor
    · rintro ⟨y, hy, heq⟩
      cases heq
      exact ⟨hy, rfl⟩
    · rintro ⟨hx, rfl⟩
      exact ⟨x, hx, rfl⟩
  contained id := by
    change Registry.Answer.contained (Keyed.has r.entries id) = _ ↔ _
    rw [Registry.Answer.contained.injEq, Keyed.has_iff_mem_keys, h.keys, List.mem_map]
  last := by
    change Registry.Answer.lastId r.lastId? = _
    unfold Registry.lastId?
    rw [h.nextId, h.firstId]
    by_cases hzero : l.issued = 0
    · simp [hzero]
    · have hne : l.firstId + (l.issued : Int) ≠ l.firstId := by omega
      rw [if_neg hne, if_neg hzero]

end Ledger

/-! ### A whole run -/

namespace Registry

variable {v : Vocabulary} {l : Ledger} {r : Registry}

/-- The ids that a run answered where it made instances. -/
def issuedIds (v : Vocabulary) (r : Registry) (ops : List Operation) : List Int :=
  (ops.zip (r.performAll v ops).result).filterMap fun step =>
    if (v.made? step.1).isSome then step.2.id? else none

theorem issuedIds_cons_of_made? {op : Operation} {e : Record} (he : v.made? op = some e)
    (ops : List Operation) :
    issuedIds v r (op :: ops) = r.nextId :: issuedIds v (r.perform v op).registry ops := by
  simp [issuedIds, performAll, he, (perform_of_made? he).2]

theorem issuedIds_cons_of_none {op : Operation} (hnone : v.made? op = none)
    (ops : List Operation) :
    issuedIds v r (op :: ops) = issuedIds v (r.perform v op).registry ops := by
  simp [issuedIds, performAll, hnone]

/-- A run issues the ids that it adds to the log, in the order of the log. -/
theorem ids_append_issuedIds (h : l.Represents r) (ops : List Operation) :
    l.ids ++ issuedIds v r ops = (ops.foldl (Ledger.after v) l).ids := by
  induction ops generalizing l r with
  | nil => simp [issuedIds]
  | cons op ops ih =>
    have hstep := ih (h.perform (v := v) op)
    rw [List.foldl_cons, ← hstep]
    cases he : v.made? op with
    | some e =>
      rw [issuedIds_cons_of_made? he, Ledger.after_of_made? he, Ledger.ids_append, h.nextId]
      simp
    | none => rw [issuedIds_cons_of_none he, Ledger.ids_after_of_none he]

/-- **A registry is its log.**  Whatever is done to a new registry, its log has exactly what was
    made, and the registry shows what was made since the last clear.  The ids that it issues are
    those of the log, which are all different and no command's. -/
theorem performAll_mirrors {firstId : Int} {source : Text}
    (h : create v.commands firstId source = .ok r) (ops : List Operation) :
    let l := Ledger.ofRun v firstId ops
    l.gone ++ l.live = ops.filterMap v.made? ∧
      l.live = (ops.rtakeWhile (· ≠ .clear)).filterMap v.made? ∧
      l.Mirrors v (r.performAll v ops).registry ∧
      issuedIds v r ops = l.ids ∧
      (issuedIds v r ops).Nodup ∧
      ∀ id ∈ issuedIds v r ops, ∀ c ∈ v.commands, id ≠ c.id := by
  intro l
  unfold create at h
  split at h
  · cases h
  · rename_i habove
    cases h
    have hstart := Ledger.represents_empty firstId source
    have hids : issuedIds v (empty source firstId) ops = l.ids := ids_append_issuedIds hstart ops
    refine ⟨Ledger.records_ofRun v firstId ops, Ledger.live_ofRun v firstId ops,
      (hstart.performAll ops).mirrors, hids, ?_, ?_⟩
    · rw [hids]
      exact l.ids_nodup
    · intro id hid c hc heq
      have hle := Catalog.le_maxId hc
      rw [hids] at hid
      have hfirst := Ledger.firstId_le_of_mem_ids hid
      rw [Ledger.firstId_ofRun] at hfirst
      omega

/-- Ids go on after a clear. -/
theorem performAll_mirrors_across_clear :
    create Builtin.vocabulary.commands 303 usualSource = .ok (empty usualSource 303) ∧
      issuedIds Builtin.vocabulary (empty usualSource 303)
        [.resolve "ScrollUp 5", .tryParse "Bogus", .clear, .parse "Exec a b"] = [303, 304] := by
  have hcreate : create Builtin.vocabulary.commands 303 usualSource =
      .ok (empty usualSource 303) := if_neg (by decide +kernel)
  refine ⟨hcreate, ?_⟩
  rw [(performAll_mirrors hcreate _).2.2.2.1]
  decide +kernel

end Registry

end CommandLang
