/-
  CommandLang/Registry/Basic.lean
  ===============================
  **The registry of instances.**

  A definition without arguments resolves to the id of its command.  A definition with arguments
  makes an instance, which is stored under a fresh id: ids are issued one after another from
  `firstId` on, above all ids of commands, and none is issued twice, not even after `clear`.

  There are three ways to resolve a definition, and they differ only in how a refusal is reported:
  `resolve` reports it as a failure, `parse` as no id, and `tryParse` as an outcome; the last two
  also put a warning into the log.  A fault of the scan is a failure in all three.
-/
import CommandLang.Definition
import CommandLang.Instance
import CommandLang.Keyed
import CommandLang.Outcome

namespace CommandLang

/-! ### The registry -/

inductive Failure where
  | refused (reason : Refusal)
  | fault (fault : Scan.Fault)
deriving DecidableEq, Repr

/-- The instances made so far, and what is needed to make the next one. -/
structure Registry where
  /-- The name under which the registry makes log entries. -/
  source : Text
  firstId : Int
  nextId : Int
  /-- The stored instances by their ids, in the order in which they were stored. -/
  entries : Keyed Instance := []
deriving DecidableEq, Repr

/-- A result, the registry afterwards, and what was put into the log on the way. -/
structure Reply (α : Type) where
  result : α
  registry : Registry
  log : List Log.Entry
deriving Repr

def Reply.map {α β : Type} (f : α → β) (reply : Reply α) : Reply β :=
  ⟨f reply.result, reply.registry, reply.log⟩

namespace Registry

/-- The first id for an instance unless another is asked for. -/
def usualFirstId : Int := 15000

/-- The source of log entries unless another is asked for. -/
def usualSource : Text := "commands.registry"

/-- Why a registry cannot be made: its ids could be taken for those of commands. -/
structure Collision where
  firstId : Int
deriving DecidableEq, Repr

def Collision.message (c : Collision) : Text :=
  "first instance id " ++ Numeral.write c.firstId ++ " collides with built-in command ids"

/-- A registry in which nothing is stored and no id has been issued. -/
def empty (source : Text) (firstId : Int) : Registry := ⟨source, firstId, firstId, []⟩

/-- An empty registry whose ids lie above those of all commands. -/
def create (commands : Catalog) (firstId : Int) (source : Text) : Except Collision Registry :=
  if firstId ≤ commands.maxId then .error ⟨firstId⟩ else .ok (empty source firstId)

def lastId? (r : Registry) : Option Int :=
  if r.nextId = r.firstId then none else some (r.nextId - 1)

def instances (r : Registry) : List Instance := Keyed.values r.entries

def size (r : Registry) : Nat := r.entries.length

def find? (r : Registry) (id : Int) : Option Instance := Keyed.get? r.entries id

def contains (r : Registry) (id : Int) : Bool := Keyed.has r.entries id

/-! ### Resolving a definition -/

/-- The instance that the next definition with arguments makes. -/
def nextInstance (r : Registry) (command : Int) (definition : Text) (arguments : List Argument) :
    Instance :=
  ⟨r.nextId, command, definition, arguments⟩

/-- Stores the next instance under its id, and issues that id. -/
def store (r : Registry) (command : Int) (definition : Text) (arguments : List Argument) :
    Registry :=
  let x := r.nextInstance command definition arguments
  { r with nextId := r.nextId + 1, entries := Keyed.put r.entries x.id x }

def stored (r : Registry) (x : Instance) : Log.Entry :=
  ⟨.debug, r.source,
    "[PARSE] '" ++ x.definition ++ "' -> id=" ++ Numeral.write x.id ++ " orig_id=" ++
      Numeral.write x.command ++ " args=" ++ Numeral.writeNat x.arguments.length⟩

def refusal (r : Registry) (definition : Text) (reason : Refusal) : Log.Entry :=
  ⟨.warning, r.source, "[PARSE] " ++ reason.code ++ ": " ++ reason.message definition⟩

/-- Resolves a definition to an id, making an instance if it has arguments. -/
def resolve (v : Vocabulary) (r : Registry) (definition : Text) : Reply (Except Failure Int) :=
  match v.judge definition with
  | .refused reason => ⟨.error (.refused reason), r, []⟩
  | .plain command => ⟨.ok command, r, []⟩
  | .scanned command trace =>
    match trace.fault, trace.arguments with
    | some fault, _ => ⟨.error (.fault fault), r, trace.log⟩
    | none, [] => ⟨.error (.refused .malformed), r, trace.log⟩
    | none, arguments =>
      ⟨.ok r.nextId, r.store command definition arguments,
        trace.log ++ [r.stored (r.nextInstance command definition arguments)]⟩

/-- Resolves a definition; a refusal gives no id. -/
def parse (v : Vocabulary) (r : Registry) (definition : Text) :
    Reply (Except Scan.Fault (Option Int)) :=
  match resolve v r definition with
  | ⟨.ok id, r, log⟩ => ⟨.ok (some id), r, log⟩
  | ⟨.error (.refused reason), r, log⟩ => ⟨.ok none, r, log ++ [r.refusal definition reason]⟩
  | ⟨.error (.fault fault), r, log⟩ => ⟨.error fault, r, log⟩

/-- Resolves a definition; a refusal is an outcome like any other. -/
def tryParse (v : Vocabulary) (r : Registry) (definition : Text) :
    Reply (Except Scan.Fault Outcome) :=
  match resolve v r definition with
  | ⟨.ok id, r, log⟩ => ⟨.ok (.accepted definition id []), r, log⟩
  | ⟨.error (.refused reason), r, log⟩ =>
    ⟨.ok (.refused definition reason.code (reason.message definition)), r,
      log ++ [r.refusal definition reason]⟩
  | ⟨.error (.fault fault), r, log⟩ => ⟨.error fault, r, log⟩

/-- Removes all instances; the ids that were issued stay issued. -/
def clear (r : Registry) : Reply Unit :=
  ⟨(), { r with entries := [] },
    [⟨.debug, r.source, "[PARSE] clearing " ++ Numeral.writeNat r.size ++ " command instances"⟩]⟩

/-- Tries definitions one after another, up to the first fault. -/
def tryAll (v : Vocabulary) (r : Registry) : List Text → Reply (Except Scan.Fault (List Outcome))
  | [] => ⟨.ok [], r, []⟩
  | definition :: rest =>
    match r.tryParse v definition with
    | ⟨.error fault, r, log⟩ => ⟨.error fault, r, log⟩
    | ⟨.ok outcome, r, log⟩ =>
      let more := tryAll v r rest
      ⟨more.result.map (outcome :: ·), more.registry, log ++ more.log⟩

end Registry

end CommandLang
