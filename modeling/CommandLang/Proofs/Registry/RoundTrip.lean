/-
  CommandLang/Proofs/Registry/RoundTrip.lean
  ==========================================
  **A definition that was written from arguments makes an instance with these arguments.**

  The definition is the name of a command, a space and the written arguments with spaces between
  them.  It is resolved alike in every registry: one instance of the command is stored, with the
  arguments in reverse order (`resolve_write`).
-/
import CommandLang.Proofs.Builtin
import CommandLang.Proofs.Catalog
import CommandLang.Proofs.Definition
import CommandLang.Proofs.Scan.RoundTrip
import CommandLang.Registry.Basic

namespace CommandLang

/-! ### Written arguments as the tail of a definition -/

/-- Written arguments are not a blank text, because each has an `=` in it. -/
theorem Text.isAllBlank_of_spaced {args : List Argument} {t : Text} (hne : args ≠ [])
    (ht : Text.Spaced (args.map Argument.write) t) : t.isAllBlank = false := by
  have hmem : '=' ∈ t := by
    generalize hpieces : args.map Argument.write = pieces at ht
    induction ht with
    | nil => exact absurd (List.map_eq_nil_iff.1 hpieces) hne
    | last piece =>
      obtain ⟨a, rest, -, rfl, -⟩ := List.map_eq_cons_iff.1 hpieces
      simp [Argument.write]
    | piece piece _ _ =>
      obtain ⟨a, rest, -, rfl, -⟩ := List.map_eq_cons_iff.1 hpieces
      simp [Argument.write]
    | space _ ih => exact List.mem_cons_of_mem _ (ih hpieces)
  rw [Text.isAllBlank, List.all_eq_false]
  exact ⟨'=', hmem, by decide⟩

/-- The built-in names are words. -/
theorem Builtin.name_of_mem_commands {c : Command} (hc : c ∈ Builtin.commands) :
    c.name ≠ [] ∧ ∀ x ∈ c.name, isBlank x = false := by
  obtain ⟨hne, hletters⟩ := (Builtin.letters_of_mem_commands hc).1
  refine ⟨hne, ?_⟩
  intro x hx
  exact Text.isBlank_of_isAlpha (hletters x hx)

/-- A built-in command is resolved by its name. -/
theorem Builtin.idByName?_name {c : Command} (hc : c ∈ Builtin.commands) :
    Builtin.commands.idByName? c.name = some c.id :=
  Builtin.toldApart_commands.idByName?_of_denotes hc (by simp [Text.denotes])

/-- What follows the name of a command and a space is scanned, unless it is blank. -/
theorem Builtin.judge_name_append {c : Command} (hc : c ∈ Builtin.commands)
    (hspecs : Builtin.vocabulary.specsFor c.id ≠ []) {t : Text} (ht : t.isAllBlank = false) :
    Builtin.vocabulary.judge (c.name ++ ' ' :: t) =
      .scanned c.id (Scan.scan (Builtin.vocabulary.specsFor c.id) t) := by
  obtain ⟨hname, hblank⟩ := Builtin.name_of_mem_commands hc
  have hsplit := Definition.split_append_space hname hblank ht
  refine judge_eq_scanned_iff.2
    ⟨c.name, t.dropSpaces, hsplit, hname, Builtin.idByName?_name hc, hspecs, ?_⟩
  rw [Scan.scan_dropSpaces]

theorem Builtin.judge_write {c : Command} (hc : c ∈ Builtin.commands) {args : List Argument}
    {t : Text} (hne : args ≠ [])
    (hargs : ∀ a ∈ args, a.Writable (Builtin.vocabulary.specsFor c.id))
    (ht : Text.Spaced (args.map Argument.write) t) :
    Builtin.vocabulary.judge (c.name ++ ' ' :: t) =
      .scanned c.id ⟨args.map Scan.Reading.argument, none⟩ := by
  have hsub := Builtin.vocabulary.specsFor_sublist c.id
  have hspecs : Builtin.vocabulary.specsFor c.id ≠ [] := by
    obtain ⟨a, rest, rfl⟩ := List.exists_cons_of_ne_nil hne
    obtain ⟨⟨s, hs, -⟩, -⟩ := hargs a (by simp)
    exact List.ne_nil_of_mem hs
  rw [Builtin.judge_name_append hc hspecs (Text.isAllBlank_of_spaced hne ht),
    Scan.scan_write (Builtin.separable_specs.sublist hsub) hargs ht]

namespace Registry

/-- A definition whose scan yields some arguments and nothing else makes an instance of them. -/
theorem resolve_of_judge {v : Vocabulary} {d : Text} {command : Int} {args : List Argument}
    (hne : args ≠ []) (h : v.judge d = .scanned command ⟨args.map Scan.Reading.argument, none⟩)
    (r : Registry) :
    r.resolve v d =
      ⟨.ok r.nextId, r.store command d args.reverse,
        [r.stored (r.nextInstance command d args.reverse)]⟩ := by
  -- the list is not empty, so it is not taken for a scan without arguments
  have hreverse : args.reverse ≠ [] := by simpa using hne
  rw [resolve, h]
  simp only [Scan.arguments_map_argument, Scan.log_map_argument, List.nil_append]

/-- A definition that was written from arguments is resolved to a new instance with them. -/
theorem resolve_write {c : Command} (hc : c ∈ Builtin.commands) {args : List Argument} {t : Text}
    (hne : args ≠ []) (hargs : ∀ a ∈ args, a.Writable (Builtin.vocabulary.specsFor c.id))
    (ht : Text.Spaced (args.map Argument.write) t) (r : Registry) :
    r.resolve Builtin.vocabulary (c.name ++ ' ' :: t) =
      ⟨.ok r.nextId, r.store c.id (c.name ++ ' ' :: t) args.reverse,
        [r.stored (r.nextInstance c.id (c.name ++ ' ' :: t) args.reverse)]⟩ :=
  resolve_of_judge hne (Builtin.judge_write hc hne hargs ht) r

theorem find?_store (r : Registry) (command : Int) (definition : Text)
    (args : List Argument) :
    (r.store command definition args).find? r.nextId =
      some ⟨r.nextId, command, definition, args⟩ :=
  Keyed.get?_put _ _ _

/-- **Reading undoes writing.**  Written arguments, with spaces between them, are scanned as the
    same arguments in reverse order, without a fault and without a word in the log; and after the
    name of a built-in command they make an instance of it with these arguments. -/
theorem written_arguments_are_read :
    (∀ specs, Spec.Separable specs → ∀ (args : List Argument) (t : Text),
        (∀ a ∈ args, a.Writable specs) → Text.Spaced (args.map Argument.write) t →
          (Scan.scan specs t).arguments = args.reverse ∧ (Scan.scan specs t).fault = none ∧
            (Scan.scan specs t).log = []) ∧
      ∀ c ∈ Builtin.commands, Builtin.groups.accepts c.id → ∀ (args : List Argument) (t : Text),
        args ≠ [] → (∀ a ∈ args, a.Writable (Builtin.vocabulary.specsFor c.id)) →
          Text.Spaced (args.map Argument.write) t → ∀ r : Registry,
            (r.resolve Builtin.vocabulary (c.name ++ ' ' :: t)).result = .ok r.nextId ∧
              (r.resolve Builtin.vocabulary (c.name ++ ' ' :: t)).registry =
                r.store c.id (c.name ++ ' ' :: t) args.reverse ∧
              (r.resolve Builtin.vocabulary (c.name ++ ' ' :: t)).registry.find? r.nextId =
                some ⟨r.nextId, c.id, c.name ++ ' ' :: t, args.reverse⟩ := by
  constructor
  · intro specs hspecs args t hargs ht
    rw [Scan.scan_write hspecs hargs ht]
    exact ⟨Scan.arguments_map_argument args, rfl, Scan.log_map_argument args⟩
  · intro c hc _ args t hne hargs ht r
    rw [resolve_write hc hne hargs ht]
    exact ⟨rfl, rfl, find?_store r c.id _ args.reverse⟩

/-- One name begins with another, a string is empty, and a colour is not opaque. -/
theorem written_arguments_are_read_under_nested_names :
    (Scan.scan [⟨1, "a", .string⟩, ⟨1, "ab", .int⟩, ⟨1, "c", .color⟩]
        "a=  ab=-5 c=#80000102 ").arguments =
      [⟨"c", .color ⟨0, 1, 2, 128⟩⟩, ⟨"ab", .int (-5)⟩, ⟨"a", .string []⟩] ∧
      ((empty usualSource 303).resolve Builtin.vocabulary
          "CreateAnnotText openedit=false").result = .ok 303 := by
  obtain ⟨hscan, hresolve⟩ := written_arguments_are_read
  constructor
  · have htext : ("a=  ab=-5 c=#80000102 " : Text) =
        Argument.write ⟨"a", .string []⟩ ++ ' ' :: ' ' :: (Argument.write ⟨"ab", .int (-5)⟩ ++
          ' ' :: (Argument.write ⟨"c", .color ⟨0, 1, 2, 128⟩⟩ ++ ' ' :: [])) := by
      decide +kernel
    rw [htext]
    exact (hscan _ ⟨by decide, by decide⟩
      [⟨"a", .string []⟩, ⟨"ab", .int (-5)⟩, ⟨"c", .color ⟨0, 1, 2, 128⟩⟩] _ (by decide)
      (.piece _ (.space (.piece _ (.piece _ .nil))))).1
  · have htext : ("CreateAnnotText openedit=false" : Text) =
        String.toList "CreateAnnotText" ++ ' ' :: Argument.write ⟨"openedit", .bool false⟩ := by
      decide +kernel
    rw [htext]
    exact (hresolve ⟨280, "CreateAnnotText", "Create Text Annotation"⟩ (by decide +kernel)
      (by decide +kernel) [⟨"openedit", .bool false⟩] _ (by decide) (by decide +kernel)
      (.last _) (empty usualSource 303)).1

end Registry

end CommandLang
