/-
  CommandLang/Keyed.lean
  ======================
  **Values under keys, in the order in which the keys came.**

  A key is a number.  Putting a value under a key that is in use replaces the value there and moves
  nothing; a new key comes after all others (`put_of_not_mem`).  Where no key is there twice, the
  value under a key is the one that is listed with it (`get?_eq_some_iff`).
-/

namespace CommandLang

/-- Values under keys, the key that came first at the head. -/
abbrev Keyed (α : Type) := List (Int × α)

namespace Keyed

variable {α : Type}

def keys (t : Keyed α) : List Int := t.map Prod.fst

def values (t : Keyed α) : List α := t.map Prod.snd

def get? (t : Keyed α) (key : Int) : Option α := t.lookup key

def has (t : Keyed α) (key : Int) : Bool := (get? t key).isSome

/-- Puts a value under a key, in place of the value that was there. -/
def put (t : Keyed α) (key : Int) (x : α) : Keyed α :=
  if has t key then t.map fun entry => if entry.1 = key then (key, x) else entry
  else t ++ [(key, x)]

theorem has_iff_mem_keys {t : Keyed α} {key : Int} : has t key ↔ key ∈ keys t := by
  simp only [has, get?, keys, List.lookup_isSome_iff, List.mem_map, beq_iff_eq]
  constructor
  · rintro ⟨entry, hmem, rfl⟩
    exact ⟨entry, hmem, rfl⟩
  · rintro ⟨entry, hmem, rfl⟩
    exact ⟨entry, hmem, rfl⟩

/-- A new key comes after all others. -/
theorem put_of_not_mem {t : Keyed α} {key : Int} (h : key ∉ keys t) (x : α) :
    put t key x = t ++ [(key, x)] := by
  rw [put, if_neg fun hhas => h (has_iff_mem_keys.1 hhas)]

/-- What was put under a key is found there. -/
theorem get?_put (t : Keyed α) (key : Int) (x : α) : get? (put t key x) key = some x := by
  by_cases h : has t key
  · rw [put, if_pos h]
    obtain ⟨y, hy⟩ : ∃ y, (key, y) ∈ t := by simpa [has_iff_mem_keys, keys] using h
    clear h
    induction t with
    | nil => cases hy
    | cons entry t ih =>
      by_cases hk : entry.1 = key
      · simp [get?, hk]
      · have hmem : (key, y) ∈ t := by
          rcases List.mem_cons.1 hy with rfl | hmem
          · exact absurd rfl hk
          · exact hmem
        have hne : (key == entry.1) = false := by simpa using Ne.symm hk
        rw [List.map_cons, if_neg hk, get?, List.lookup_cons, hne]
        exact ih hmem
  · have hlast : ([(key, x)] : Keyed α).lookup key = some x := by simp
    have hnone : t.lookup key = none := by
      cases hlook : t.lookup key with
      | none => rfl
      | some y => exact absurd (by rw [has, get?, hlook]; rfl) h
    rw [put, if_neg h, get?, List.lookup_append, hnone, hlast]
    rfl

/-- Putting a value under a key adds no other value. -/
theorem mem_values_put {t : Keyed α} {key : Int} {x y : α} (h : y ∈ values (put t key x)) :
    y = x ∨ y ∈ values t := by
  obtain ⟨entry, hentry, rfl⟩ := List.mem_map.1 h
  rw [put] at hentry
  split at hentry
  · obtain ⟨old, hold, rfl⟩ := List.mem_map.1 hentry
    split
    · exact .inl rfl
    · exact .inr (List.mem_map_of_mem hold)
  · rcases List.mem_append.1 hentry with hold | hnew
    · exact .inr (List.mem_map_of_mem hold)
    · rw [List.mem_singleton.1 hnew]
      exact .inl rfl

/-- Where no key is there twice, a value is found under the key that it is listed with. -/
theorem get?_eq_some_iff {t : Keyed α} (h : (keys t).Nodup) {key : Int} {x : α} :
    get? t key = some x ↔ (key, x) ∈ t := by
  induction t with
  | nil => simp [get?]
  | cons entry t ih =>
    obtain ⟨k, y⟩ := entry
    simp only [keys, List.map_cons, List.nodup_cons] at h
    by_cases hk : key = k
    · -- the key is the first one, so it is not listed again further on
      subst hk
      have hnot : (key, x) ∉ t := fun hmem => h.1 (List.mem_map_of_mem (f := Prod.fst) hmem)
      simp [get?, hnot, eq_comm]
    · have hne : (key == k) = false := by simpa using hk
      have hlook : get? ((k, y) :: t) key = get? t key := by simp [get?, List.lookup_cons, hne]
      rw [hlook, ih h.2]
      simp [hk]

end Keyed

end CommandLang
