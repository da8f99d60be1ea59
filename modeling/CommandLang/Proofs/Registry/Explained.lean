/-
  CommandLang/Proofs/Registry/Explained.lean
  ==========================================
  **What is stored follows from its definition.**

  An instance is explained (`Instance.Explained`) if it is one of a command that takes arguments, if
  it has arguments and each of them is declared for the command, with bytes for the channels of a
  colour, and if its definition is read as that command and these arguments.

  Main statement: all that a registry stores is explained, whatever has been done to the registry
  (`stored_instances_are_explained`).  It is so because everything that is made is explained
  (`explained_of_ruling`), and a registry stores nothing else (`forall_stored`).
-/
import CommandLang.Proofs.Catalog
import CommandLang.Proofs.Definition
import CommandLang.Proofs.Registry.Reachable
import CommandLang.Proofs.Registry.Sequence
import CommandLang.Proofs.Scan.Yield

namespace CommandLang

structure Instance.Explained (v : Vocabulary) (x : Instance) : Prop where
  command : ∃ c ∈ v.commands, c.id = x.command
  accepts : v.groups.accepts x.command = true
  nonempty : x.arguments ≠ []
  declared : ∀ a ∈ x.arguments, ∃ s ∈ v.specsFor x.command, s.name = a.name ∧ s.kind = a.kind
  bytes : ∀ a ∈ x.arguments, ∀ c, a.value = .color c → c.InRange
  /-- The name in the definition is that of the command, and the scan of what follows the name
      yields the arguments. -/
  definition : ∃ name tail, Definition.split x.definition = ⟨name, some tail⟩ ∧
    v.commands.idByName? name = some x.command ∧
      (Scan.scan (v.specsFor x.command) tail).fault = none ∧
        (Scan.scan (v.specsFor x.command) tail).arguments = x.arguments

namespace Registry

variable {v : Vocabulary} {r : Registry} {d : Text}

/-- What a definition is ruled to make is explained by the definition, under whatever id. -/
theorem explained_of_ruling {command : Int} {args : List Argument}
    (h : v.ruling d = .made command args) (id : Int) :
    Instance.Explained v ⟨id, command, d, args⟩ := by
  obtain ⟨trace, hj, hfault, rfl, hne⟩ := ruling_eq_made_iff.1 h
  obtain ⟨name, tail, hsplit, -, hid, hspecs, rfl⟩ := judge_eq_scanned_iff.1 hj
  have hyield := (Scan.legible_scan (v.specsFor command) tail).writable_or_takesRest
  have hargs : ∀ a ∈ (Scan.scan (v.specsFor command) tail).arguments,
      a.Writable (v.specsFor command) ∨ ∃ t, a.TakesRest (v.specsFor command) t := by
    intro a ha
    exact hyield a (List.mem_reverse.2 ha)
  constructor
  case command => exact Catalog.exists_of_idByName? hid
  case accepts => exact accepts_of_specsFor_ne_nil hspecs
  case nonempty => exact hne
  case declared =>
    intro a ha
    rcases hargs a ha with hwritable | ⟨t, hrest⟩
    · exact hwritable.1
    · exact hrest.declared
  case bytes =>
    intro a ha c hc
    rcases hargs a ha with hwritable | ⟨t, hrest⟩
    · have hvalue := hwritable.2
      rw [hc] at hvalue
      exact hvalue
    · -- what takes the rest of a text is no colour
      rw [hrest.value] at hc
      cases hc
  case definition => exact ⟨name, tail, hsplit, hid, hfault, rfl⟩

theorem mem_instances_store {command : Int} {args : List Argument} {x : Instance}
    (h : x ∈ (r.store command d args).instances) :
    x = ⟨r.nextId, command, d, args⟩ ∨ x ∈ r.instances := Keyed.mem_values_put h

/-- What is new after a definition was resolved is what the definition was ruled to make. -/
theorem exists_made_of_new {x : Instance} (hnew : x ∉ r.instances)
    (hx : x ∈ (r.resolve v d).registry.instances) :
    ∃ command args, v.ruling d = .made command args ∧ x = ⟨r.nextId, command, d, args⟩ := by
  rw [resolve_registry] at hx
  split at hx
  · rename_i command args hruling
    rcases mem_instances_store hx with hmade | hold
    · exact ⟨command, args, hruling, hmade⟩
    · exact absurd hold hnew
  · exact absurd hx hnew

/-- What holds of everything that can be made holds of all that is stored. -/
theorem forall_stored {P : Instance → Prop}
    (hmade : ∀ d command args id, v.ruling d = .made command args → P ⟨id, command, d, args⟩)
    (hr : Reachable v r) : ∀ x ∈ r.instances, P x := by
  induction hr with
  | @create firstId source r hnew =>
    unfold create at hnew
    split at hnew
    · cases hnew
    · cases hnew
      intro x hx
      cases hx
  | @perform r op _ ih =>
    intro x hx
    cases he : v.made? op with
    | some e =>
      rw [(perform_of_made? he).1] at hx
      obtain ⟨-, hruling⟩ := made?_eq_some_iff.1 he
      rcases mem_instances_store hx with rfl | hold
      · exact hmade e.definition e.command e.arguments r.nextId hruling
      · exact ih x hold
    | none =>
      by_cases hc : op = .clear
      · subst hc
        rw [perform_clear] at hx
        cases hx
      · rw [perform_registry_of_idle he hc] at hx
        exact ih x hx

/-- **All that is stored is explained by its definition**, in every registry that comes about. -/
theorem stored_instances_are_explained (hr : Reachable v r) :
    ∀ x ∈ r.instances, x.Explained v :=
  forall_stored (fun _ _ _ id hruling => explained_of_ruling hruling id) hr

/-- A flag without a value, a rejected colour and a string with spaces in it, after a clear. -/
theorem stored_instances_are_explained_after_clear :
    ∃ r : Registry, Reachable Builtin.vocabulary r ∧
      r.instances.map Instance.arguments =
        [[⟨"openedit", .bool true⟩, ⟨"color", .color ⟨1, 2, 3, 255⟩⟩],
          [⟨"spec", .string "a  b "⟩, ⟨"filter", .string "x"⟩]] ∧
        ∀ x ∈ r.instances, x.Explained Builtin.vocabulary := by
  have hnew : create Builtin.vocabulary.commands 303 usualSource = .ok (empty usualSource 303) :=
    if_neg (by decide +kernel)
  have hr := reachable_performAll (.create hnew)
    [.resolve "ScrollUp 5", .clear, .parse "createannotline rgb(1,2,3) red OpenEdit",
      .tryParse "  Exec FILTER:  x a  b "]
  exact ⟨_, hr, by decide +kernel, stored_instances_are_explained hr⟩

end Registry

end CommandLang
