/-
  CommandLang/Proofs/Registry/Canonical.lean
  ==========================================
  **The canonical definition of an instance.**

  It is the name of the command, a space and the canonical text of the arguments in the order in
  which they were given.  However an instance was defined, its canonical definition makes another
  one of the same command with the same arguments, and nothing is rejected on the way
  (`resolve_canonical`).
-/
import CommandLang.Help
import CommandLang.Proofs.Registry.Explained
import CommandLang.Proofs.Registry.RoundTrip
import CommandLang.Proofs.Scan.Canonical

namespace CommandLang

/-- The definition of an instance in canonical form. -/
def Instance.canonical (v : Vocabulary) (x : Instance) : Text :=
  v.nameOf x.command ++ ' ' :: Argument.canonicalText x.arguments.reverse

/-- The name of a built-in command is found by its id. -/
theorem Builtin.nameOf_id {c : Command} (hc : c ∈ Builtin.commands) :
    Builtin.vocabulary.nameOf c.id = c.name := by
  have hfind : Builtin.vocabulary.commands.find? c.id = some c :=
    Catalog.find?_of_mem Builtin.distinct_commands hc
  rw [Vocabulary.nameOf, hfind]

namespace Registry

variable {v : Vocabulary} {r : Registry} {d : Text} {x : Instance}

/-- What a definition is ruled to make is scanned again from the canonical form. -/
theorem judge_canonical {command : Int} {args : List Argument}
    (h : Builtin.vocabulary.ruling d = .made command args) (id : Int) :
    args ≠ [] ∧
      Builtin.vocabulary.judge (Instance.canonical Builtin.vocabulary ⟨id, command, d, args⟩) =
        .scanned command ⟨args.reverse.map Scan.Reading.argument, none⟩ := by
  obtain ⟨trace, hj, hfault, rfl, hne⟩ := ruling_eq_made_iff.1 h
  obtain ⟨name, tail, hsplit, -, hid, hspecs, rfl⟩ := judge_eq_scanned_iff.1 hj
  obtain ⟨c, hc, rfl⟩ := Catalog.exists_of_idByName? hid
  have hsub := Builtin.vocabulary.specsFor_sublist c.id
  have hblank := Scan.isAllBlank_canonicalText
    (fun s hs hstring s' hs' => Builtin.kind_ne_color_of_string hs hs' hstring) hne
    (Definition.tail_of_split hsplit).2
  refine ⟨hne, ?_⟩
  rw [Instance.canonical, Builtin.nameOf_id hc, Builtin.judge_name_append hc hspecs hblank,
    Scan.scan_canonical (Builtin.separable_specs.sublist hsub) (Scan.legible_scan _ tail)]

/-- **The canonical definition of an instance makes the instance again**: in whatever registry it is
    resolved, it makes one of the same command with the same arguments, and all that is logged is
    that it was made. -/
theorem resolve_canonical (hnew : x ∉ r.instances)
    (hx : x ∈ (r.resolve Builtin.vocabulary d).registry.instances) (r' : Registry) :
    let d' := x.canonical Builtin.vocabulary
    let x' : Instance := ⟨r'.nextId, x.command, d', x.arguments⟩
    r'.resolve Builtin.vocabulary d' =
        ⟨.ok x'.id, r'.store x.command d' x.arguments, [r'.stored x']⟩ ∧
      (r'.resolve Builtin.vocabulary d').registry.find? x'.id = some x' := by
  obtain ⟨command, args, hruling, rfl⟩ := exists_made_of_new hnew hx
  obtain ⟨hne, hjudge⟩ := judge_canonical hruling r.nextId
  have hresolve := resolve_of_judge (by simpa using hne) hjudge r'
  rw [List.reverse_reverse] at hresolve
  intro d' x'
  refine ⟨hresolve, ?_⟩
  rw [hresolve]
  exact find?_store r' command d' args

/-- A string with spaces at its end stands by itself in the canonical definition. -/
theorem resolve_canonical_with_bare_string :
    let r := empty usualSource 303
    let x : Instance := ⟨303, 302, " exec FILTER:  x   a  b ",
      [⟨"spec", .string "a  b "⟩, ⟨"filter", .string "x"⟩]⟩
    x ∉ r.instances ∧ x ∈ (r.resolve Builtin.vocabulary x.definition).registry.instances ∧
      x.canonical Builtin.vocabulary = "Exec filter=x a  b " ∧
        (r.resolve Builtin.vocabulary "Exec filter=x a  b ").registry.find? 303 =
          some { x with definition := "Exec filter=x a  b " } := by
  intro r x
  have hnew : x ∉ r.instances := by decide
  have hx : x ∈ (r.resolve Builtin.vocabulary x.definition).registry.instances := by
    decide +kernel
  have htext : x.canonical Builtin.vocabulary = "Exec filter=x a  b " := by decide +kernel
  refine ⟨hnew, hx, htext, ?_⟩
  rw [← htext]
  exact (resolve_canonical hnew hx r).2

end Registry

end CommandLang
