/-
  CommandLang/Proofs/Except.lean
  ==============================
  **Computations that may fail.**

  One that is made of two parts succeeds if both do, with what the second gives (`bind_eq_ok_iff`).
  One that is made for every entry of a list succeeds if it does so for each (`exists_mapM_ok_iff`).
-/

namespace CommandLang

variable {ε α β : Type}

theorem bind_eq_ok_iff {x : Except ε α} {f : α → Except ε β} {b : β} :
    (x >>= f) = .ok b ↔ ∃ a, x = .ok a ∧ f a = .ok b := by
  cases x with
  | error e => simp [bind, Except.bind]
  | ok a => simp [bind, Except.bind]

/-- What succeeds in two parts succeeds with some value. -/
theorem exists_bind_ok {x : Except ε α} {f : α → Except ε β} {a : α} (hx : x = .ok a)
    (hf : ∃ b, f a = .ok b) : ∃ b, (x >>= f) = .ok b := by
  rw [hx]
  exact hf

theorem exists_bind_pure_ok_iff {x : Except ε α} {g : α → β} :
    (∃ b, (x >>= fun a => pure (g a)) = .ok b) ↔ ∃ a, x = .ok a := by
  constructor
  · rintro ⟨b, hb⟩
    obtain ⟨a, ha, -⟩ := bind_eq_ok_iff.1 hb
    exact ⟨a, ha⟩
  · rintro ⟨a, ha⟩
    exact exists_bind_ok ha ⟨g a, rfl⟩

theorem map_eq_ok_iff {x : Except ε α} {f : α → β} {b : β} :
    x.map f = .ok b ↔ ∃ a, x = .ok a ∧ f a = b := by
  cases x with
  | error e => simp [Except.map]
  | ok a => simp [Except.map]

theorem map_eq_error_iff {x : Except ε α} {f : α → β} {e : ε} :
    x.map f = .error e ↔ x = .error e := by
  cases x with
  | error e' => simp [Except.map]
  | ok a => simp [Except.map]

theorem map_bind_pure {γ : Type} (x : Except ε α) (f : α → β) (g : β → γ) :
    (x.map f >>= fun b => pure (g b)) = x.map fun a => g (f a) := by
  cases x with
  | error e => rfl
  | ok a => rfl

theorem mapError_eq_ok_iff {ε' : Type} {x : Except ε α} {f : ε → ε'} {a : α} :
    x.mapError f = .ok a ↔ x = .ok a := by
  cases x with
  | error e =>
    constructor
    · intro h
      cases h
    · intro h
      cases h
  | ok b =>
    constructor
    · intro h
      cases h
      rfl
    · intro h
      cases h
      rfl

/-! ### Lists -/

variable {f : α → Except ε β} {xs : List α}

theorem mapM_cons_eq_ok_iff {x : α} {ys : List β} :
    (x :: xs).mapM f = .ok ys ↔
      ∃ y rest, f x = .ok y ∧ xs.mapM f = .ok rest ∧ ys = y :: rest := by
  rw [List.mapM_cons, bind_eq_ok_iff]
  constructor
  · rintro ⟨y, hy, hrest⟩
    obtain ⟨rest, hrest, heq⟩ := bind_eq_ok_iff.1 hrest
    exact ⟨y, rest, hy, hrest, (Except.ok.inj heq).symm⟩
  · rintro ⟨y, rest, hy, hrest, rfl⟩
    exact ⟨y, hy, bind_eq_ok_iff.2 ⟨rest, hrest, rfl⟩⟩

theorem exists_mapM_ok_iff :
    (∃ ys, xs.mapM f = .ok ys) ↔ ∀ x ∈ xs, ∃ y, f x = .ok y := by
  induction xs with
  | nil => simp [pure, Except.pure]
  | cons x xs ih =>
    simp only [mapM_cons_eq_ok_iff, List.forall_mem_cons, ← ih]
    constructor
    · rintro ⟨ys, y, rest, hy, hrest, -⟩
      exact ⟨⟨y, hy⟩, ⟨rest, hrest⟩⟩
    · rintro ⟨⟨y, hy⟩, ⟨rest, hrest⟩⟩
      exact ⟨y :: rest, y, rest, hy, hrest, rfl⟩

/-- A feature of the values that shows in what they are made of. -/
theorem map_eq_of_mapM {γ : Type} {ys : List β} {g : β → γ} {k : α → γ} (h : xs.mapM f = .ok ys)
    (hgk : ∀ x y, f x = .ok y → g y = k x) : ys.map g = xs.map k := by
  induction xs generalizing ys with
  | nil =>
    cases h
    rfl
  | cons x xs ih =>
    obtain ⟨y, rest, hy, hrest, rfl⟩ := mapM_cons_eq_ok_iff.1 h
    rw [List.map_cons, List.map_cons, hgk x y hy, ih hrest]

theorem length_of_mapM {ys : List β} (h : xs.mapM f = .ok ys) : ys.length = xs.length := by
  have hunits : ys.map (fun _ => ()) = xs.map fun _ => () := map_eq_of_mapM h fun _ _ _ => rfl
  simpa using congrArg List.length hunits

theorem getElem?_of_mapM {ys : List β} {j : Nat} {x : α} (h : xs.mapM f = .ok ys)
    (hx : xs[j]? = some x) : ∃ y, f x = .ok y ∧ ys[j]? = some y := by
  induction xs generalizing ys j with
  | nil => cases hx
  | cons x' xs ih =>
    obtain ⟨y, rest, hy, hrest, rfl⟩ := mapM_cons_eq_ok_iff.1 h
    cases j with
    | zero =>
      cases hx
      exact ⟨y, hy, rfl⟩
    | succ j =>
      obtain ⟨z, hz, hj⟩ := ih hrest hx
      exact ⟨z, hz, hj⟩

theorem exists_mem_of_mapM {ys : List β} {x : α} (h : xs.mapM f = .ok ys) (hx : x ∈ xs) :
    ∃ y ∈ ys, f x = .ok y := by
  obtain ⟨j, hj⟩ := List.getElem?_of_mem hx
  obtain ⟨y, hy, hj⟩ := getElem?_of_mapM h hj
  exact ⟨y, List.mem_of_getElem? hj, hy⟩

/-- What holds of each value holds of all of them together. -/
theorem exists_mapM_ok {P : β → Prop} (h : ∀ x ∈ xs, ∃ y, f x = .ok y ∧ P y) :
    ∃ ys, xs.mapM f = .ok ys ∧ ∀ y ∈ ys, P y := by
  induction xs with
  | nil => exact ⟨[], rfl, by simp⟩
  | cons x xs ih =>
    obtain ⟨y, hy, hP⟩ := h x List.mem_cons_self
    obtain ⟨rest, hrest, hall⟩ := ih fun z hz => h z (List.mem_cons_of_mem x hz)
    refine ⟨y :: rest, mapM_cons_eq_ok_iff.2 ⟨y, rest, hy, hrest, rfl⟩, ?_⟩
    exact List.forall_mem_cons.2 ⟨hP, hall⟩

end CommandLang
