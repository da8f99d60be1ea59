/-
  CommandLang/Proofs/Catalog/Lookup.lean
  ======================================
  **Looking up a command does not depend on the order of the catalog.**

  A text may denote a command in two ways: it is the name, or it begins with the name and goes on
  with `=`.  The first match counts in a look-up.  But if no name has an `=` in it, all that a text
  can denote is the part before its first `=`, and names are given once: there is only one match.

  Main statement: in every catalog that passes its check, look-up by name is unambiguous if no name
  has an `=` in it, and look-up by description if no description has (`lookup_is_unambiguous`).
-/
import CommandLang.Proofs.Builtin
import CommandLang.Proofs.Catalog

namespace CommandLang.Catalog

/-- A text never denotes two commands by the feature, and is looked up as the one that it denotes. -/
structure Unambiguous (key : Command → Text) (lookUp : Catalog → Text → Option Int)
    (commands : Catalog) : Prop where
  atMostOne : ∀ t : Text, commands.countP (fun c => t.denotes (key c)) ≤ 1
  found : ∀ t : Text, ∀ c ∈ commands, t.denotes (key c) → lookUp commands t = some c.id
  missing : ∀ t : Text, lookUp commands t = none ↔ ∀ c ∈ commands, t.denotes (key c) = false
  anyOrder : ∀ others, commands.Perm others → ∀ t, lookUp others t = lookUp commands t
  /-- A command is found by its own feature, letter case aside. -/
  own : ∀ c ∈ commands, ∀ t : Text, t.fold = (key c).fold → lookUp commands t = some c.id

variable {key : Command → Text} {commands others : Catalog} {t : Text}

/-- What a text denotes has the folded text before its first `=` for a feature, and no two commands
    have that. -/
theorem ToldApart.countP_le_one (h : ToldApart key commands) (t : Text) :
    commands.countP (fun c => t.denotes (key c)) ≤ 1 := by
  have hfold : ∀ c ∈ commands, t.denotes (key c) →
      ((key c).fold == (t.cutAt '=').1.fold) = true := by
    intro c hc ht
    rw [Text.fold_eq_of_denotes (h.free c hc) ht]
    exact beq_self_eq_true _
  calc commands.countP (fun c => t.denotes (key c))
      ≤ commands.countP (fun c => (key c).fold == (t.cutAt '=').1.fold) :=
        List.countP_mono_left hfold
    _ = (commands.map fun c => (key c).fold).count (t.cutAt '=').1.fold := by
        rw [List.count_eq_countP, List.countP_map]
        rfl
    _ ≤ 1 := List.nodup_iff_count_le_one.1 h.apart _

theorem ToldApart.denotedBy?_perm (h : ToldApart key commands) (hperm : commands.Perm others) :
    denotedBy? key others t = denotedBy? key commands t := by
  cases hfind : denotedBy? key commands t with
  | some c =>
    obtain ⟨hc, ht⟩ := h.denotedBy?_eq_some_iff.1 hfind
    exact (h.perm hperm).denotedBy?_eq_some_iff.2 ⟨hperm.mem_iff.1 hc, ht⟩
  | none =>
    have hnone := denotedBy?_eq_none_iff.1 hfind
    exact denotedBy?_eq_none_iff.2 fun c hc => hnone c (hperm.mem_iff.2 hc)

/-- Where commands are told apart by a feature, taking the first match is unambiguous. -/
theorem ToldApart.unambiguous (h : ToldApart key commands) :
    Unambiguous key (fun commands t => (denotedBy? key commands t).map Command.id) commands := by
  have hfound : ∀ t : Text, ∀ c ∈ commands, t.denotes (key c) →
      (denotedBy? key commands t).map Command.id = some c.id := by
    intro t c hc ht
    rw [h.denotedBy?_eq_some_iff.2 ⟨hc, ht⟩]
    rfl
  constructor
  case atMostOne => exact h.countP_le_one
  case found => exact hfound
  case missing =>
    intro t
    rw [Option.map_eq_none_iff, denotedBy?_eq_none_iff]
  case anyOrder =>
    intro others hperm t
    simp only [h.denotedBy?_perm hperm]
  case own =>
    intro c hc t ht
    apply hfound t c hc
    simp [Text.denotes, ht]

/-- **Look-up is unambiguous** in every catalog that passes its check, such as the built-in one: by
    name if no name has an `=` in it, and by description if no description has. -/
theorem lookup_is_unambiguous :
    (check Builtin.commands = .ok () ∧
        ∀ c ∈ Builtin.commands, '=' ∉ c.name ∧ '=' ∉ c.description) ∧
      ∀ commands, check commands = .ok () →
        ((∀ c ∈ commands, '=' ∉ c.name) → Unambiguous Command.name idByName? commands) ∧
          ((∀ c ∈ commands, '=' ∉ c.description) →
            Unambiguous Command.description idByDescription? commands) := by
  constructor
  · refine ⟨Builtin.check_commands, ?_⟩
    intro c hc
    exact ⟨Builtin.not_mem_name hc (by decide),
      Builtin.not_mem_description hc (by decide) (by decide)⟩
  · intro commands hcheck
    have hdistinct := (check_eq_ok_iff.1 hcheck).2
    constructor
    · intro hfree
      exact (toldApart_name hdistinct hfree).unambiguous
    · intro hfree
      exact (toldApart_description hdistinct hfree).unambiguous

/-- Of two names, one folds to the text and the other to the beginning of the text. -/
theorem lookup_is_unambiguous_under_folding :
    let commands : Catalog := [⟨1, "Stras", "Way"⟩, ⟨2, "Straß", "Way Out"⟩]
    check commands = .ok () ∧ (∀ c ∈ commands, '=' ∉ c.name) ∧
      idByName? commands.reverse "STRASS" = some 2 ∧ idByName? commands "STRASS=x" = none := by
  intro commands
  have hcheck : check commands = .ok () := Builtin.eq_ok_of_toBool (by decide +kernel)
  have hfree : ∀ c ∈ commands, '=' ∉ c.name := by decide
  have hname := (lookup_is_unambiguous.2 commands hcheck).1 hfree
  refine ⟨hcheck, hfree, ?_, ?_⟩
  · rw [hname.anyOrder _ (List.reverse_perm commands).symm]
    exact hname.own ⟨2, "Straß", "Way Out"⟩ (by decide) _ (by decide +kernel)
  · exact (hname.missing _).2 (by decide +kernel)

end CommandLang.Catalog
