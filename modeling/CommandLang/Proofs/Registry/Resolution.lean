/-
  CommandLang/Proofs/Registry/Resolution.lean
  ===========================================
  **What one operation does to a registry.**

  Whether a definition fails, stands for a command or makes an instance is settled without looking
  at a registry (`Vocabulary.ruling`).  So an operation has one of three effects:

    * an operation that makes an instance stores it and issues its id   — `perform_of_made?`;
    * `clear` removes what is stored                                    — `perform_clear`;
    * every other operation changes nothing                             — `perform_registry_of_idle`.

  The three ways to resolve a definition leave the same registry and differ in what they report
  (`parse_result`, `tryParse_result`).
-/
import CommandLang.Registry.Operation

namespace CommandLang

/-! ### Rulings -/

/-- What a definition comes to, whatever was defined before. -/
inductive Ruling where
  | failed (f : Failure)
  /-- The definition stands for the command itself. -/
  | plain (command : Int)
  /-- The definition makes an instance of the command, with these arguments. -/
  | made (command : Int) (arguments : List Argument)
deriving DecidableEq, Repr

/-- The ruling that a verdict amounts to: a scan must end without a fault and yield arguments. -/
def Verdict.ruling : Verdict → Ruling
  | .refused reason => .failed (.refused reason)
  | .plain command => .plain command
  | .scanned command trace =>
    match trace.fault, trace.arguments with
    | some f, _ => .failed (.fault f)
    | none, [] => .failed (.refused .malformed)
    | none, arguments => .made command arguments

def Vocabulary.ruling (v : Vocabulary) (definition : Text) : Ruling := (v.judge definition).ruling

/-- An instance is made of a scan that ends without a fault and yields arguments. -/
theorem ruling_eq_made_iff {v : Vocabulary} {definition : Text} {command : Int}
    {args : List Argument} :
    v.ruling definition = .made command args ↔
      ∃ trace, v.judge definition = .scanned command trace ∧ trace.fault = none ∧
        trace.arguments = args ∧ args ≠ [] := by
  unfold Vocabulary.ruling
  constructor
  · intro h
    cases hj : v.judge definition with
    | refused reason => simp [hj, Verdict.ruling] at h
    | plain command' => simp [hj, Verdict.ruling] at h
    | scanned command' trace =>
      simp only [hj, Verdict.ruling] at h
      split at h
      · cases h
      · cases h
      · rename_i hfault hargs
        cases h
        exact ⟨trace, rfl, hfault, rfl, fun hnil => hargs hnil⟩
  · rintro ⟨trace, hj, hfault, rfl, hne⟩
    rw [hj, Verdict.ruling, hfault]
    cases hargs : trace.arguments with
    | nil => exact absurd hargs hne
    | cons a rest => rfl

namespace Registry

variable {v : Vocabulary} {r : Registry} {definition : Text}

/-! ### Resolving a definition -/

theorem resolve_result (v : Vocabulary) (r : Registry) (definition : Text) :
    (r.resolve v definition).result =
      match v.ruling definition with
      | .failed f => .error f
      | .plain command => .ok command
      | .made _ _ => .ok r.nextId := by
  unfold resolve Vocabulary.ruling
  cases v.judge definition with
  | refused reason => rfl
  | plain command => rfl
  | scanned command trace =>
    simp only [Verdict.ruling]
    cases trace.fault with
    | some f => rfl
    | none => cases trace.arguments <;> rfl

theorem resolve_registry (v : Vocabulary) (r : Registry) (definition : Text) :
    (r.resolve v definition).registry =
      match v.ruling definition with
      | .made command arguments => r.store command definition arguments
      | _ => r := by
  unfold resolve Vocabulary.ruling
  cases v.judge definition with
  | refused reason => rfl
  | plain command => rfl
  | scanned command trace =>
    simp only [Verdict.ruling]
    cases trace.fault with
    | some f => rfl
    | none => cases trace.arguments <;> rfl

/-- What `parse` reports where `resolve` has the given result. -/
def parsed : Except Failure Int → Except Scan.Fault (Option Int)
  | .ok id => .ok (some id)
  | .error (.refused _) => .ok none
  | .error (.fault f) => .error f

/-- What `tryParse` reports where `resolve` has the given result. -/
def tried (definition : Text) : Except Failure Int → Except Scan.Fault Outcome
  | .ok id => .ok (.accepted definition id [])
  | .error (.refused reason) => .ok (.refused definition reason.code (reason.message definition))
  | .error (.fault f) => .error f

theorem parse_result (v : Vocabulary) (r : Registry) (definition : Text) :
    (r.parse v definition).result = parsed (r.resolve v definition).result := by
  unfold parse
  rcases r.resolve v definition with ⟨(reason | f) | id, r', log⟩ <;> rfl

theorem parse_registry (v : Vocabulary) (r : Registry) (definition : Text) :
    (r.parse v definition).registry = (r.resolve v definition).registry := by
  unfold parse
  rcases r.resolve v definition with ⟨(reason | f) | id, r', log⟩ <;> rfl

theorem tryParse_result (v : Vocabulary) (r : Registry) (definition : Text) :
    (r.tryParse v definition).result = tried definition (r.resolve v definition).result := by
  unfold tryParse
  rcases r.resolve v definition with ⟨(reason | f) | id, r', log⟩ <;> rfl

theorem tryParse_registry (v : Vocabulary) (r : Registry) (definition : Text) :
    (r.tryParse v definition).registry = (r.resolve v definition).registry := by
  unfold tryParse
  rcases r.resolve v definition with ⟨(reason | f) | id, r', log⟩ <;> rfl

/-! ### Operations and answers -/

/-- The definition that an operation resolves, if it resolves one. -/
def Operation.definition? : Operation → Option Text
  | .resolve definition | .parse definition | .tryParse definition => some definition
  | .find _ | .contains _ | .list | .lastId | .clear => none

/-- The id that a definition was resolved to. -/
def Answer.id? : Answer → Option Int
  | .resolved result => result.toOption
  | .parsed result => result.toOption.join
  | .tried (.ok (.accepted _ id _)) => some id
  | _ => none

/-- The answer to a definition that was not resolved. -/
def Answer.isFailure : Answer → Bool
  | .resolved (.error _) | .parsed (.error _) | .parsed (.ok none) => true
  | .tried (.error _) | .tried (.ok (.refused _ _ _)) => true
  | _ => false

/-- An operation that resolves a definition leaves the registry that `resolve` leaves. -/
theorem perform_registry_of_definition? {op : Operation} (h : op.definition? = some definition) :
    (r.perform v op).registry = (r.resolve v definition).registry := by
  cases op with
  | resolve d => cases h; rfl
  | parse d => cases h; exact parse_registry v r _
  | tryParse d => cases h; exact tryParse_registry v r _
  | _ => cases h

/-- An operation that resolves a definition answers the id that `resolve` gives. -/
theorem id?_perform {op : Operation} (h : op.definition? = some definition) :
    (r.perform v op).result.id? = (r.resolve v definition).result.toOption := by
  cases op with
  | resolve d => cases h; rfl
  | parse d =>
    cases h
    change (r.parse v definition).result.toOption.join = _
    rw [parse_result]
    rcases (r.resolve v definition).result with (reason | f) | id <;> rfl
  | tryParse d =>
    cases h
    change Answer.id? (.tried (r.tryParse v definition).result) = _
    rw [tryParse_result]
    rcases (r.resolve v definition).result with (reason | f) | id <;> rfl
  | _ => cases h

theorem isFailure_perform {op : Operation} (h : op.definition? = some definition) :
    (r.perform v op).result.isFailure = !(r.resolve v definition).result.toBool := by
  cases op with
  | resolve d =>
    cases h
    change Answer.isFailure (.resolved (r.resolve v definition).result) = _
    rcases (r.resolve v definition).result with (reason | f) | id <;> rfl
  | parse d =>
    cases h
    change Answer.isFailure (.parsed (r.parse v definition).result) = _
    rw [parse_result]
    rcases (r.resolve v definition).result with (reason | f) | id <;> rfl
  | tryParse d =>
    cases h
    change Answer.isFailure (.tried (r.tryParse v definition).result) = _
    rw [tryParse_result]
    rcases (r.resolve v definition).result with (reason | f) | id <;> rfl
  | _ => cases h

end Registry

/-! ### The three effects -/

structure Record where
  command : Int
  definition : Text
  arguments : List Argument
deriving DecidableEq, Repr

/-- The instance that a record stands for under an id. -/
def Record.numbered (e : Record) (id : Int) : Instance :=
  ⟨id, e.command, e.definition, e.arguments⟩

/-- What an operation makes, if it makes an instance. -/
def Vocabulary.made? (v : Vocabulary) (op : Registry.Operation) : Option Record :=
  op.definition?.bind fun definition =>
    match v.ruling definition with
    | .made command arguments => some ⟨command, definition, arguments⟩
    | _ => none

namespace Registry

variable {v : Vocabulary} {r : Registry} {op : Operation}

theorem made?_eq_some_iff {e : Record} :
    v.made? op = some e ↔
      op.definition? = some e.definition ∧ v.ruling e.definition = .made e.command e.arguments := by
  unfold Vocabulary.made?
  constructor
  · intro h
    obtain ⟨definition, hd, he⟩ := Option.bind_eq_some_iff.1 h
    split at he
    · rename_i hr
      cases he
      exact ⟨hd, hr⟩
    · cases he
  · rintro ⟨hd, hr⟩
    simp [hd, hr]

/-- An operation that makes an instance stores it and answers its id, which is the next one. -/
theorem perform_of_made? {e : Record} (h : v.made? op = some e) :
    (r.perform v op).registry = r.store e.command e.definition e.arguments ∧
      (r.perform v op).result.id? = some r.nextId := by
  obtain ⟨hd, hr⟩ := made?_eq_some_iff.1 h
  constructor
  · rw [perform_registry_of_definition? hd, resolve_registry, hr]
  · rw [id?_perform hd, resolve_result, hr]
    rfl

theorem perform_clear (v : Vocabulary) (r : Registry) :
    (r.perform v .clear).registry = { r with entries := [] } := rfl

theorem perform_registry_of_idle (h : v.made? op = none) (hc : op ≠ .clear) :
    (r.perform v op).registry = r := by
  cases hd : op.definition? with
  | some definition =>
    rw [perform_registry_of_definition? hd, resolve_registry]
    split
    · rename_i command arguments hr
      simp [Vocabulary.made?, hd, hr] at h
    · rfl
  | none =>
    cases op with
    | clear => exact absurd rfl hc
    | find id => rfl
    | contains id => rfl
    | list => rfl
    | lastId => rfl
    | resolve d => cases hd
    | parse d => cases hd
    | tryParse d => cases hd

end Registry

end CommandLang
