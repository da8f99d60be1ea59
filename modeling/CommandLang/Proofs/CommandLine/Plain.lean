/-
  CommandLang/Proofs/CommandLine/Plain.lean
  =========================================
  **A run with plain output reports what the registry did.**

  Plain output is made of lines, and everything can be written.  The parts of a run follow each
  other: what is shown of the commands does not depend on the definitions (`run_plain`), and what is
  shown of the definitions is a table with a line for each of them and a block for each instance
  (`tryDefinitions_of_ok`).  A part that fails sets the exit status, and no later part sets it back
  (`Result.Signals.andThen`).

  Main statement: the exit status, the table and the blocks are those of a new registry that is
  given the definitions in the order of the command line (`plain_run_reports`).  The command line
  is read by the later edition, which always gives a level for the log; where the earlier one gives
  one, `exists_run_iff` and `reports_of_run` say the same.
-/
import CommandLang.Proofs.CommandLine.Finish
import CommandLang.Proofs.CommandLine.Level
import CommandLang.Proofs.Registry.Sequence

namespace CommandLang

/-! ### Lines -/

namespace Console

theorem table_plain (t : Table) (style : Option Text) (wrap : Bool) :
    plain.table t style wrap = .ok (written [t.plain]) := by
  have hcalls : plain.table t style wrap = .ok [written [t.plain]].flatten := rfl
  rw [hcalls, List.flatten_singleton]

theorem flatten_written {α : Type} (f : α → Text) (xs : List α) :
    (xs.map fun x => written [f x]).flatten = written (xs.map f) := by
  induction xs with
  | nil => rfl
  | cons x xs ih =>
    rw [List.map_cons, List.flatten_cons, ih, ← written_append]
    rfl

end Console

namespace CommandLine

open Registry (tried)

variable {v : Vocabulary} {s : Settings} {d : Text} {definitions : List Text} {res : Result}
  {screen : Screen}

/-! ### The exit status -/

/-- The exit status tells whether something is so. -/
structure Result.Signals (res : Result) (P : Prop) : Prop where
  one : P → res.status = 1
  zero : ¬ P → res.status = 0

theorem Result.Signals.le_one {P : Prop} (h : res.Signals P) : res.status ≤ 1 := by
  by_cases hP : P
  · exact (h.one hP).le
  · rw [h.zero hP]
    exact Nat.zero_le 1

/-- Two parts in turn tell whether one thing or the other is so. -/
theorem Result.Signals.andThen {first second : Result} {P Q : Prop} (hP : first.Signals P)
    (hQ : second.Signals Q) : (first.andThen second).Signals (P ∨ Q) := by
  have hmax : (first.andThen second).status = max first.status second.status := rfl
  constructor
  · rintro (h | h)
    · rw [hmax, hP.one h]
      exact max_eq_left hQ.le_one
    · rw [hmax, hQ.one h]
      exact max_eq_right hP.le_one
  · intro h
    rw [not_or] at h
    rw [hmax, hP.zero h.1, hQ.zero h.2]
    rfl

theorem Result.signals_of_all {α : Type} {xs : List α} {p : α → Bool}
    (h : res.status = if xs.all p then 0 else 1) : res.Signals (∃ x ∈ xs, p x = false) := by
  constructor
  · rintro ⟨x, hx, hp⟩
    rw [h]
    apply if_neg
    rw [List.all_eq_true]
    intro hall
    rw [hall x hx] at hp
    cases hp
  · intro hnone
    rw [h]
    apply if_pos
    rw [List.all_eq_true]
    intro x hx
    by_contra hp
    rw [Bool.not_eq_true] at hp
    exact hnone ⟨x, hx, hp⟩

theorem andThen_nothing (res : Result) : res.andThen .nothing = res := by
  simp [Result.andThen, Result.nothing]

/-! ### Definitions -/

/-- The line on a definition in the table of outcomes. -/
def outcomeLine : Text × Except CommandLang.Failure Int → Text
  | (d, .ok id) => Text.join " | " [d, "ok", Numeral.write id, "-"]
  | (d, .error (.refused reason)) => Text.join " | " [d, reason.code, "-1", reason.message d]
  | (_, .error (.fault _)) => []

/-- The lines before those on the definitions. -/
def outcomeHeading : List Text :=
  ["Definitions", "Definition | Result | Id | Detail", List.replicate 33 '-']

theorem isEmpty_message (reason : Refusal) (d : Text) : (reason.message d).isEmpty = false := by
  cases reason <;> rfl

theorem plainRow_of_tried {result : Except CommandLang.Failure Int} {o : Outcome}
    (h : tried d result = .ok o) : Table.plainRow o.row = outcomeLine (d, result) := by
  rcases result with (reason | f) | id
  · cases h
    have hdetail : orDash (reason.message d) = reason.message d := by
      rw [orDash, isEmpty_message]
      rfl
    have hrow : Table.plainRow (Outcome.refused d reason.code (reason.message d)).row =
        Text.join " | " [d, reason.code, "-1", orDash (reason.message d)] := rfl
    rw [hrow, hdetail]
    rfl
  · cases h
  · cases h
    rfl

theorem isAccepted_of_tried {result : Except CommandLang.Failure Int} {o : Outcome}
    (h : tried d result = .ok o) : o.isAccepted = result.toBool := by
  rcases result with (reason | f) | id
  · cases h
    rfl
  · cases h
  · cases h
    rfl

theorem written_outcomeTable (outcomes : List Outcome) :
    Console.written [(Outcome.table outcomes).plain] =
      Console.written (outcomeHeading ++ outcomes.map fun o => Table.plainRow o.row) := by
  have hplain : (Outcome.table outcomes).plain =
      Text.join "\n" (outcomeHeading ++ outcomes.map fun o => Table.plainRow o.row) := by
    rw [Table.plain, Outcome.table, List.map_map]
    rfl
  rw [hplain]
  exact Console.written_join _ _

theorem mapM_block (title : Text) (f : Instance → Text) (xs : List Instance) :
    (xs.mapM fun x => writing (Console.plain.block title (f x))) =
      .ok (xs.map fun x => Console.written [f x]) := List.mapM_pure

/-- The registry that a run gives its definitions to. -/
def fresh : Registry := Registry.empty logSource Registry.usualFirstId

/-- What is reported of definitions that were resolved in a row: a line for each of them in a table,
    and a block for each instance. -/
def reported (v : Vocabulary) (resolved : Reply (List (Text × Except CommandLang.Failure Int))) :
    List Text :=
  outcomeHeading ++ resolved.result.map outcomeLine ++
    resolved.registry.instances.map v.describeInstance

theorem tryDefinitions_of_error {f : Scan.Fault}
    (h : (fresh.tryAll v definitions).result = .error f) :
    tryDefinitions v .plain definitions = .error (.fault f) := by
  rw [fresh] at h
  simp only [tryDefinitions, h]

theorem tryDefinitions_of_ok {outcomes : List Outcome}
    (h : (fresh.tryAll v definitions).result = .ok outcomes) :
    ∃ res, tryDefinitions v .plain definitions = .ok res ∧
      res.Signals (∃ a ∈ (fresh.resolveAll v definitions).result, a.2.toBool = false) ∧
      res.output = Console.written (reported v (fresh.resolveAll v definitions)) := by
  have hnoted := h
  rw [Registry.tryAll_result] at hnoted
  have hlines := map_eq_of_mapM hnoted fun _ _ => plainRow_of_tried
  have haccepted := map_eq_of_mapM hnoted fun _ _ => isAccepted_of_tried
  have hregistry := Registry.registry_tryAll h
  rw [fresh] at h
  simp only [tryDefinitions, h, Console.table_plain, mapM_block]
  refine ⟨_, rfl, ?_, ?_⟩
  · apply Result.signals_of_all
    have hall := congrArg (List.all · id) haccepted
    simp only [List.all_map, Function.id_comp] at hall
    rw [hall]
  · rw [fresh] at hregistry
    rw [Console.flatten_written, written_outcomeTable, hlines, hregistry,
      ← Console.written_append]
    rfl

/-! ### A whole run -/

/-- The text names no command, and describes none. -/
def Undescribed (v : Vocabulary) (describe : Option Text) : Prop :=
  ∃ t, describe = some t ∧ t ≠ [] ∧
    ∀ c ∈ v.commands, t.denotes c.name = false ∧ t.denotes c.description = false

theorem exists_listPart (v : Vocabulary) (list : Bool) :
    ∃ a, listPart v .plain list = .ok a ∧ a.Signals False := by
  cases list with
  | false => exact ⟨_, rfl, False.elim, fun _ => rfl⟩
  | true => exact ⟨_, rfl, False.elim, fun _ => rfl⟩

theorem orElse_eq_none_iff {t : Text} :
    (v.commands.idByName? t <|> v.commands.idByDescription? t) = none ↔
      ∀ c ∈ v.commands, t.denotes c.name = false ∧ t.denotes c.description = false := by
  rw [Option.orElse_eq_orElse, Option.orElse_eq_or, Option.or_eq_none_iff,
    Catalog.idByName?_eq_none_iff, Catalog.idByDescription?_eq_none_iff]
  exact forall₂_and.symm

theorem exists_describePart (v : Vocabulary) (t : Option Text) :
    ∃ b, describePart v .plain t = .ok b ∧ b.Signals (Undescribed v t) := by
  rcases t with _ | (_ | ⟨c, t⟩)
  · refine ⟨_, rfl, ?_, fun _ => rfl⟩
    rintro ⟨t, ⟨⟩, -⟩
  · refine ⟨_, rfl, ?_, fun _ => rfl⟩
    rintro ⟨t, ⟨⟩, hne, -⟩
    exact absurd rfl hne
  · have hiff := orElse_eq_none_iff (v := v) (t := c :: t)
    simp only [describePart, describe]
    cases hid : v.commands.idByName? (c :: t) <|> v.commands.idByDescription? (c :: t) with
    | none =>
      refine ⟨_, rfl, fun _ => rfl, ?_⟩
      intro hdescribed
      exact absurd ⟨c :: t, rfl, List.cons_ne_nil c t, hiff.1 hid⟩ hdescribed
    | some id =>
      refine ⟨_, rfl, ?_, fun _ => rfl⟩
      rintro ⟨_, ⟨⟩, -, hnone⟩
      rw [hiff.2 hnone] at hid
      cases hid

/-- What comes before the definitions is shown whatever they are, and tells whether the command to
    be described was missing. -/
theorem run_plain (v : Vocabulary) (screen : Screen) (hplain : s.plain = true)
    (hlevel : s.level.isSome) :
    ∃ before, run v { s with definitions := [] } screen = .ok before ∧
      before.Signals (Undescribed v s.describe) ∧
      run v s screen = inTurn (.ok before) (tryPart v .plain s.definitions) := by
  obtain ⟨a, ha, hlist⟩ := exists_listPart v s.list
  obtain ⟨b, hb, hdescribe⟩ := exists_describePart v s.describe
  have hconsole : s.console screen = .plain := if_pos hplain
  have hrun : ∀ definitions, run v { s with definitions := definitions } screen =
      inTurn (.ok (a.andThen b)) (tryPart v .plain definitions) := by
    intro definitions
    have hconsole' : Settings.console { s with definitions := definitions } screen = .plain :=
      hconsole
    rw [run_eq_perform (by exact hlevel), perform_eq, hconsole', ha, hb]
    rfl
  refine ⟨a.andThen b, ?_, ?_, hrun s.definitions⟩
  · rw [hrun []]
    exact congrArg Except.ok (andThen_nothing _)
  · have hsignals := hlist.andThen hdescribe
    rwa [false_or] at hsignals

/-- A run is as it should be if its exit status tells whether something failed, … -/
structure Reports (v : Vocabulary) (s : Settings) (screen : Screen)
    (resolved : Reply (List (Text × Except CommandLang.Failure Int))) (res : Result) : Prop where
  status : res.Signals
    (Undescribed v s.describe ∨ ∃ a ∈ resolved.result, a.2.toBool = false)
  /-- … if after what is shown without any definitions it shows what became of them, … -/
  output : s.definitions ≠ [] →
    ∃ before, run v { s with definitions := [] } screen = .ok before ∧
      res.output = before.output ++ Console.written (reported v resolved)
  /-- … and if the instances are those of the definitions with arguments, in their order. -/
  instances : resolved.registry.instances =
    (s.definitions.filterMap fun d => v.made? (.resolve d)).mapIdx fun n e =>
      e.numbered (15000 + n)

/-- Definitions are tried to the end if none of them comes to a fault, and reported. -/
theorem exists_tryPart_iff :
    (∃ res, tryPart v .plain definitions = .ok res) ↔
      ∀ a ∈ (fresh.resolveAll v definitions).result, ∀ f, a.2 ≠ .error (.fault f) := by
  rw [← Registry.exists_tryAll_iff]
  cases definitions with
  | nil => exact iff_of_true ⟨_, rfl⟩ ⟨_, rfl⟩
  | cons d rest =>
    change (∃ res, tryDefinitions v .plain (d :: rest) = .ok res) ↔ _
    cases htry : (fresh.tryAll v (d :: rest)).result with
    | error f => simp [tryDefinitions_of_error htry]
    | ok outcomes =>
      obtain ⟨res, hres, -⟩ := tryDefinitions_of_ok htry
      exact iff_of_true ⟨res, hres⟩ ⟨outcomes, rfl⟩

theorem tryPart_reports (h : tryPart v .plain definitions = .ok res) :
    res.Signals (∃ a ∈ (fresh.resolveAll v definitions).result, a.2.toBool = false) ∧
      (definitions ≠ [] →
        res.output = Console.written (reported v (fresh.resolveAll v definitions))) := by
  cases definitions with
  | nil =>
    cases h
    refine ⟨⟨?_, fun _ => rfl⟩, fun hne => absurd rfl hne⟩
    rintro ⟨a, ha, -⟩
    cases ha
  | cons d rest =>
    change tryDefinitions v .plain (d :: rest) = .ok res at h
    cases htry : (fresh.tryAll v (d :: rest)).result with
    | error f =>
      rw [tryDefinitions_of_error htry] at h
      cases h
    | ok outcomes =>
      obtain ⟨res', hres, hsignals, houtput⟩ := tryDefinitions_of_ok htry
      rw [hres] at h
      cases h
      exact ⟨hsignals, fun _ => houtput⟩

theorem reports_of_run (hplain : s.plain = true) (h : run v s screen = .ok res) :
    Reports v s screen (fresh.resolveAll v s.definitions) res := by
  obtain ⟨before, hbefore, hdescribed, hrun⟩ := run_plain v screen hplain (isSome_level_of_run h)
  rw [hrun] at h
  obtain ⟨_, last, hfirst, hlast, rfl⟩ := inTurn_eq_ok_iff.1 h
  cases hfirst
  obtain ⟨hrefused, houtput⟩ := tryPart_reports hlast
  constructor
  case status => exact hdescribed.andThen hrefused
  case output =>
    intro hne
    refine ⟨before, hbefore, ?_⟩
    rw [← houtput hne]
    rfl
  case instances => exact Registry.instances_resolveAll v logSource 15000 s.definitions

theorem exists_run_iff (hplain : s.plain = true) (hlevel : s.level.isSome) :
    (∃ res, run v s screen = .ok res) ↔
      ∀ a ∈ (fresh.resolveAll v s.definitions).result, ∀ f, a.2 ≠ .error (.fault f) := by
  obtain ⟨before, -, -, hrun⟩ := run_plain v screen hplain hlevel
  rw [← exists_tryPart_iff, hrun]
  constructor
  · rintro ⟨res, h⟩
    obtain ⟨_, last, -, hlast, -⟩ := inTurn_eq_ok_iff.1 h
    exact ⟨last, hlast⟩
  · rintro ⟨last, hlast⟩
    exact ⟨_, inTurn_eq_ok_iff.2 ⟨before, last, rfl, hlast, rfl⟩⟩

/-- **A run with plain output reports what the registry did.**  The definitions are words of the
    command line, and they are resolved in a new registry in that order.  The run finishes unless a
    scan comes to a fault; then its exit status tells whether the command to be described was
    missing or a definition was refused, and after what is shown without any definitions there is a
    line for each of them and a block for each instance.  The screen does not matter. -/
theorem plain_run_reports {words : List Text} (screen : Screen)
    (hread : read words .later = .ok (.run s)) (hplain : s.plain = true) :
    let v := Builtin.vocabulary
    let resolved := fresh.resolveAll v s.definitions
    s.definitions.Sublist words ∧ resolved.result.map Prod.fst = s.definitions ∧
      Registry.create v.commands 15000 logSource = .ok fresh ∧
      ((∃ res, run v s screen = .ok res) ↔
        ∀ a ∈ resolved.result, ∀ f, a.2 ≠ .error (.fault f)) ∧
      ∀ res, run v s screen = .ok res → Reports v s screen resolved res := by
  intro v resolved
  refine ⟨definitions_sublist hread, Registry.map_fst_resolveAll v fresh s.definitions,
    if_neg (by decide +kernel), exists_run_iff hplain (isSome_level_of_read hread), ?_⟩
  intro res hres
  exact reports_of_run hplain hres

/-- A definition without arguments is accepted and leaves no instance, and one that is refused takes
    no id. -/
theorem plain_run_reports_mixed :
    let s : Settings :=
      { plain := true, describe := some "nope"
        definitions := ["ScrollUp 5", "Close x", "Close", "ScrollUp 2"] }
    let shown : List Text :=
      ["Definitions", "Definition | Result | Id | Detail", "---------------------------------",
        "ScrollUp 5 | ok | 15000 | -",
        "Close x | NO_ARGUMENTS | -1 | command in 'Close x' doesn't accept arguments",
        "Close | ok | 201 | -",
        "ScrollUp 2 | ok | 15001 | -",
        "Instance: 15000\nCommand: ScrollUp (240)\nDefinition: ScrollUp 5\nArgs:\n- n=5 (int)",
        "Instance: 15001\nCommand: ScrollUp (240)\nDefinition: ScrollUp 2\nArgs:\n- n=2 (int)"]
    read ["--plain", "ScrollUp 5", "Close x", "Close", "ScrollUp 2", "--describe=nope"] .later =
        .ok (.run s) ∧
      ∃ res before, run Builtin.vocabulary s .wide = .ok res ∧ res.status = 1 ∧
        res.output = before ++ Console.written shown := by
  intro s shown
  have hread : read ["--plain", "ScrollUp 5", "Close x", "Close", "ScrollUp 2",
      "--describe=nope"] .later = .ok (.run s) := by decide +kernel
  have hresolved : (fresh.resolveAll Builtin.vocabulary s.definitions).result =
      s.definitions.zip
        [.ok 15000, .error (.refused .noArguments), .ok 201, .ok 15001] := by decide +kernel
  obtain ⟨-, -, -, hfinishes, hreports⟩ := plain_run_reports .wide hread rfl
  obtain ⟨res, hres⟩ := hfinishes.2 (by rw [hresolved]; simp [s])
  obtain ⟨before, -, houtput⟩ := (hreports res hres).output (by decide)
  refine ⟨hread, res, before.output, hres, ?_, ?_⟩
  · apply (hreports res hres).status.one
    right
    rw [hresolved]
    exact ⟨("Close x", .error (.refused .noArguments)), by decide, rfl⟩
  · rw [houtput]
    exact congrArg (before.output ++ Console.written ·) (by decide +kernel)

end CommandLine

end CommandLang
