/-
  CommandLang/Registry/Operation.lean
  ===================================
  **Operations on a registry, one after another.**

  A registry is used through eight operations.  `perform` answers one of them, and `performAll`
  answers a sequence of them; an operation that fails leaves its failure as the answer, and the
  sequence goes on.
-/
import CommandLang.Registry.Basic

namespace CommandLang.Registry

inductive Operation where
  | resolve (definition : Text)
  | parse (definition : Text)
  | tryParse (definition : Text)
  | find (id : Int)
  | contains (id : Int)
  | list
  | lastId
  | clear
deriving DecidableEq, Repr

inductive Answer where
  | resolved (result : Except Failure Int)
  | parsed (result : Except Scan.Fault (Option Int))
  | tried (result : Except Scan.Fault Outcome)
  | found (x : Option Instance)
  | contained (answer : Bool)
  | listed (instances : List Instance)
  | lastId (id : Option Int)
  | cleared
deriving Repr

def perform (v : Vocabulary) (r : Registry) : Operation → Reply Answer
  | .resolve definition => (r.resolve v definition).map .resolved
  | .parse definition => (r.parse v definition).map .parsed
  | .tryParse definition => (r.tryParse v definition).map .tried
  | .find id => ⟨.found (r.find? id), r, []⟩
  | .contains id => ⟨.contained (r.contains id), r, []⟩
  | .list => ⟨.listed r.instances, r, []⟩
  | .lastId => ⟨.lastId r.lastId?, r, []⟩
  | .clear => r.clear.map fun _ => .cleared

def performAll (v : Vocabulary) (r : Registry) : List Operation → Reply (List Answer)
  | [] => ⟨[], r, []⟩
  | op :: rest =>
    let first := r.perform v op
    let others := performAll v first.registry rest
    ⟨first.result :: others.result, others.registry, first.log ++ others.log⟩

@[simp] theorem performAll_nil (v : Vocabulary) (r : Registry) :
    performAll v r [] = ⟨[], r, []⟩ := rfl

end CommandLang.Registry
