/-
  CommandLang/Proofs/Instance.lean
  ================================
  **The argument given last counts.**

  A scan puts each argument before those found earlier, and a look-up takes the first that fits.  So
  it finds the last one in the order of the definition (`Argument.IsLast`).  Arguments of the name
  that are passed over for their kind come later in the definition than what is found, and there is
  one note for each of them (`Argument.notes`).

  Main statement: `accessors_give_the_last`.
-/
import CommandLang.Proofs.Registry.Explained
import Mathlib.Data.Int.Basic
import Mathlib.Logic.Nontrivial.Basic

namespace CommandLang

namespace Argument

variable {name : Text} {wanted : Option Kind} {kind : Kind} {a : Argument}
  {given newer older later : List Argument}

/-! ### Arguments that fit -/

/-- The argument has the name, letter case aside, and the kind if one is wanted. -/
def Fits (name : Text) (wanted : Option Kind) (a : Argument) : Prop :=
  a.name.fold = name.fold ∧ ∀ kind ∈ wanted, a.kind = kind

instance (name : Text) (wanted : Option Kind) (a : Argument) : Decidable (a.Fits name wanted) :=
  inferInstanceAs (Decidable (_ ∧ _))

/-- Of the given arguments, this is the last one that fits, and these come after it. -/
def IsLast (name : Text) (wanted : Option Kind) (given : List Argument) (a : Argument)
    (later : List Argument) : Prop :=
  ∃ earlier, given = earlier ++ a :: later ∧ a.Fits name wanted ∧
    ∀ b ∈ later, ¬ b.Fits name wanted

/-- One note for each argument that has the name but not the kind that is wanted, the last argument
    first: it is for debugging and tells the name, the kind that is wanted and that of the
    argument. -/
def notes (name : Text) (wanted : Option Kind) (given : List Argument) : List Log.Entry :=
  match wanted with
  | none => []
  | some kind =>
    (given.reverse.filter fun a => a.name.fold = name.fold ∧ a.kind ≠ kind).map fun a =>
      ⟨.debug, "commands.registry",
        "[ARGS] found `" ++ name ++ "` of a different type (wanted: " ++ kind.label ++ ", is: " ++
          a.kind.label ++ ")"⟩

theorem exists_isLast_or (name : Text) (wanted : Option Kind) (given : List Argument) :
    (∃ a later, IsLast name wanted given a later) ∨ ∀ a ∈ given, ¬ a.Fits name wanted := by
  induction given with
  | nil => exact .inr (by simp)
  | cons x given ih =>
    rcases ih with ⟨a, later, earlier, rfl, ha, hlater⟩ | hnone
    · exact .inl ⟨a, later, x :: earlier, rfl, ha, hlater⟩
    · by_cases hx : x.Fits name wanted
      · exact .inl ⟨x, given, [], rfl, hx, hnone⟩
      · exact .inr (List.forall_mem_cons.2 ⟨hx, hnone⟩)

theorem IsLast.mem (h : IsLast name wanted given a later) : a ∈ given ∧ a.Fits name wanted := by
  obtain ⟨earlier, rfl, ha, -⟩ := h
  exact ⟨by simp, ha⟩

/-! ### Looking up -/

theorem find?_of_fits (h : a.Fits name wanted) (older : List Argument) :
    find? name wanted (a :: older) = (some a, []) := by
  obtain ⟨hname, hkind⟩ := h
  cases wanted with
  | none => simp [find?, hname]
  | some kind => simp [find?, hname, hkind kind rfl]

theorem find?_of_not_fits (h : ¬ a.Fits name wanted) (older : List Argument) :
    find? name wanted (a :: older) =
      ((find? name wanted older).1, notes name wanted [a] ++ (find? name wanted older).2) := by
  by_cases hname : a.name.fold = name.fold
  · cases wanted with
    | none => exact absurd ⟨hname, by simp⟩ h
    | some kind =>
      have hkind : a.kind ≠ kind := by
        intro heq
        exact h ⟨hname, by simp [heq]⟩
      simp [find?, notes, passedOver, hname, hkind]
  · cases wanted <;> simp [find?, notes, hname]

/-- What comes last in the definition is looked at first. -/
theorem notes_concat (name : Text) (wanted : Option Kind) (given : List Argument) (a : Argument) :
    notes name wanted (given ++ [a]) = notes name wanted [a] ++ notes name wanted given := by
  cases wanted with
  | none => rfl
  | some kind => by_cases h : a.name.fold = name.fold ∧ a.kind ≠ kind <;> simp [notes, h]

/-- Arguments that do not fit are passed over, with a note if they have the name. -/
theorem find?_append_of_not_fits (h : ∀ b ∈ later, ¬ b.Fits name wanted) (older : List Argument) :
    find? name wanted (later.reverse ++ older) =
      ((find? name wanted older).1, notes name wanted later ++ (find? name wanted older).2) := by
  induction later using List.reverseRecOn with
  | nil => cases wanted <;> rfl
  | append_singleton later b ih =>
    have hb : ¬ b.Fits name wanted := h b (by simp)
    have hlater := ih fun b hb => h b (List.mem_append_left _ hb)
    rw [List.reverse_append, List.reverse_singleton, List.singleton_append, List.cons_append,
      find?_of_not_fits hb, hlater, notes_concat, List.append_assoc]

theorem IsLast.find?_eq (h : IsLast name wanted given a later) :
    find? name wanted given.reverse = (some a, notes name wanted later) := by
  obtain ⟨earlier, rfl, ha, hlater⟩ := h
  rw [List.reverse_append, List.reverse_cons, List.append_assoc, find?_append_of_not_fits hlater,
    List.singleton_append, find?_of_fits ha, List.append_nil]

theorem find?_of_none (h : ∀ a ∈ given, ¬ a.Fits name wanted) :
    find? name wanted given.reverse = (none, notes name wanted given) := by
  have hfind := find?_append_of_not_fits h []
  rwa [List.append_nil, find?, List.append_nil] at hfind

end Argument

namespace Instance

open Argument

variable {name : Text} {wanted : Option Kind} {kind : Kind} {x : Option Instance} {a : Argument}
  {later : List Argument}

/-- The arguments of an instance in the order of its definition, and none if it is absent. -/
def given (x : Option Instance) : List Argument := x.elim [] fun x => x.arguments.reverse

theorem argument?_eq (x : Option Instance) (name : Text) (wanted : Option Kind) :
    argument? x name wanted = find? name wanted (given x).reverse := by
  cases x with
  | none => rfl
  | some x => rw [given, Option.elim, List.reverse_reverse, argument?]

/-! ### What a look-up answers -/

/-- The answer is the last of the given arguments that fits, with the notes on those after it. -/
structure Answers (name : Text) (wanted : Option Kind) (given : List Argument)
    (answer : Option Argument × List Log.Entry) : Prop where
  found : ∀ a later, IsLast name wanted given a later → answer = (some a, notes name wanted later)
  missing : (∀ a ∈ given, ¬ a.Fits name wanted) → answer = (none, notes name wanted given)
  none_iff : answer.1 = none ↔ ∀ a ∈ given, ¬ a.Fits name wanted

theorem answers_argument? (x : Option Instance) (name : Text) (wanted : Option Kind) :
    Answers name wanted (given x) (argument? x name wanted) := by
  rw [argument?_eq]
  refine ⟨fun a later hlast => hlast.find?_eq, find?_of_none, ?_⟩
  constructor
  · intro hnone
    rcases exists_isLast_or name wanted (given x) with ⟨a, later, hlast⟩ | hmissing
    · rw [hlast.find?_eq] at hnone
      cases hnone
    · exact hmissing
  · intro hmissing
    rw [find?_of_none hmissing]

/-- The accessor gives what the last argument of the name and kind holds, whatever the default, and
    gives the default only if there is no such argument. -/
structure GivesLast {α β : Type} (kind : Kind) (value : β → Value) (result : β → α)
    (name : Text) (given : List Argument) (accessor : α → α × List Log.Entry) : Prop where
  present : ∀ a later, IsLast name (some kind) given a later →
    ∃ b, a.value = value b ∧ ∀ default, accessor default = (result b, notes name (some kind) later)
  absent : (∀ a ∈ given, ¬ a.Fits name (some kind)) →
    ∀ default, accessor default = (default, notes name (some kind) given)
  default_iff : (∀ default, (accessor default).1 = default) ↔
    ∀ a ∈ given, ¬ a.Fits name (some kind)

theorem givesLast_held {α β : Type} [Nontrivial α] (read? : Value → Option α) {value : β → Value}
    {result : β → α}
    (hread : ∀ v : Value, v.kind = kind → ∃ b, v = value b ∧ read? v = some (result b))
    (x : Option Instance) (name : Text) :
    GivesLast kind value result name (given x) (held kind read? x name) := by
  have hanswers := answers_argument? x name (some kind)
  have hpresent : ∀ a later, IsLast name (some kind) (given x) a later →
      ∃ b, a.value = value b ∧
        ∀ default, held kind read? x name default = (result b, notes name (some kind) later) := by
    intro a later hlast
    obtain ⟨b, hvalue, hb⟩ := hread a.value (hlast.mem.2.2 kind rfl)
    refine ⟨b, hvalue, ?_⟩
    intro default
    simp [held, hanswers.found a later hlast, hb]
  have habsent : (∀ a ∈ given x, ¬ a.Fits name (some kind)) →
      ∀ default, held kind read? x name default = (default, notes name (some kind) (given x)) := by
    intro hmissing default
    simp [held, hanswers.missing hmissing]
  refine ⟨hpresent, habsent, ?_⟩
  constructor
  · intro hdefault
    rcases exists_isLast_or name (some kind) (given x) with ⟨a, later, hlast⟩ | hmissing
    · -- one result cannot be every default
      obtain ⟨b, -, hb⟩ := hpresent a later hlast
      obtain ⟨other, hother⟩ := exists_ne (result b)
      have heq := hdefault other
      rw [hb other] at heq
      exact absurd heq.symm hother
    · exact hmissing
  · intro hmissing default
    rw [habsent hmissing default]

/-- The arguments of a stored instance are given in the order in which the scan of its definition
    reads them. -/
theorem given_of_mem_instances {v : Vocabulary} {r : Registry} (hr : Registry.Reachable v r)
    {x : Instance} (hx : x ∈ r.instances) :
    ∃ tail, (Definition.split x.definition).tail = some tail ∧
      given (some x) =
        (Scan.scan (v.specsFor x.command) tail).readings.filterMap Scan.Reading.argument? := by
  have hexplained : x.Explained v :=
    Registry.forall_stored (fun _ _ _ id h => Registry.explained_of_ruling h id) hr x hx
  obtain ⟨name, tail, hsplit, -, -, hargs⟩ := hexplained.definition
  refine ⟨tail, by rw [hsplit], ?_⟩
  rw [← Scan.arguments_reverse, hargs]
  rfl

/-- **A look-up gives the argument given last** of those that fit, and a typed one what that
    argument holds, in the order in which the definition of a stored instance is scanned. -/
theorem accessors_give_the_last (x : Option Instance) (name : Text) :
    (∀ wanted, Answers name wanted (given x) (argument? x name wanted)) ∧
      GivesLast .int Value.int (fun n => n) name (given x) (int x name) ∧
      GivesLast .bool Value.bool (fun flag => flag) name (given x) (bool x name) ∧
      GivesLast .string Value.string some name (given x) (string x name) ∧
      GivesLast .color Value.color some name (given x) (color x name) ∧
      ∀ v r, Registry.Reachable v r → ∀ y ∈ r.instances,
        ∃ tail, (Definition.split y.definition).tail = some tail ∧
          given (some y) =
            (Scan.scan (v.specsFor y.command) tail).readings.filterMap Scan.Reading.argument? := by
  refine ⟨answers_argument? x name, ?_, ?_, ?_, ?_, fun v r hr y hy => given_of_mem_instances hr hy⟩
  · refine givesLast_held Value.int? ?_ x name
    intro value hkind
    cases value with
    | int n => exact ⟨n, rfl, rfl⟩
    | _ => cases hkind
  · refine givesLast_held Value.bool? ?_ x name
    intro value hkind
    cases value with
    | bool flag => exact ⟨flag, rfl, rfl⟩
    | _ => cases hkind
  · refine givesLast_held (fun value => value.string?.map some) ?_ x name
    intro value hkind
    cases value with
    | string t => exact ⟨t, rfl, rfl⟩
    | _ => cases hkind
  · have hcolor : Nonempty Color := ⟨⟨0, 0, 0, 0⟩⟩
    refine givesLast_held (fun value => value.color?.map some) ?_ x name
    intro value hkind
    cases value with
    | color c => exact ⟨c, rfl, rfl⟩
    | _ => cases hkind

/-- A number between two texts of its name, and a stored instance that gives its flag and its colour
    twice. -/
theorem accessors_give_the_last_among_kinds :
    let x : Instance := ⟨1, 2, "", [⟨"size", .string "b"⟩, ⟨"SIZE", .int 7⟩, ⟨"Size", .string "a"⟩]⟩
    (∀ default, int (some x) "sizE" default = (7, [⟨.debug, "commands.registry",
        "[ARGS] found `sizE` of a different type (wanted: int, is: str)"⟩])) ∧
      (∀ default, bool (some x) "sizE" default = (default,
        [⟨.debug, "commands.registry",
            "[ARGS] found `sizE` of a different type (wanted: bool, is: str)"⟩,
          ⟨.debug, "commands.registry",
            "[ARGS] found `sizE` of a different type (wanted: bool, is: int)"⟩,
          ⟨.debug, "commands.registry",
            "[ARGS] found `sizE` of a different type (wanted: bool, is: str)"⟩])) ∧
      ∃ r : Registry, Registry.Reachable Builtin.vocabulary r ∧
        r.instances.map (fun y => given (some y)) =
          [[⟨"openedit", .bool false⟩, ⟨"color", .color ⟨0, 255, 0, 255⟩⟩, ⟨"openedit", .bool true⟩,
            ⟨"color", .color ⟨18, 52, 86, 255⟩⟩]] ∧
        ∀ y ∈ r.instances, ∃ tail, (Definition.split y.definition).tail = some tail ∧
          given (some y) =
            (Scan.scan (Builtin.vocabulary.specsFor y.command) tail).readings.filterMap
              Scan.Reading.argument? := by
  intro x
  obtain ⟨-, hint, hbool, -, -, hscan⟩ := accessors_give_the_last (some x) "sizE"
  have hlast : IsLast "sizE" (some .int) (given (some x)) ⟨"SIZE", .int 7⟩
      [⟨"size", .string "b"⟩] :=
    ⟨[⟨"Size", .string "a"⟩], rfl, by decide, by decide⟩
  have hnone : ∀ a ∈ given (some x), ¬ a.Fits "sizE" (some .bool) := by decide
  refine ⟨?_, hbool.absent hnone, ?_⟩
  · obtain ⟨n, hn, heq⟩ := hint.present _ _ hlast
    cases hn
    exact heq
  · have hnew : Registry.create Builtin.vocabulary.commands 303 Registry.usualSource =
        .ok (Registry.empty Registry.usualSource 303) := if_neg (by decide +kernel)
    have hr := Registry.reachable_performAll (.create hnew)
      [.resolve "CreateAnnotText OPENEDIT=no #00ff00 openedit #123456"]
    exact ⟨_, hr, by decide +kernel, hscan _ _ hr⟩

end Instance

end CommandLang
