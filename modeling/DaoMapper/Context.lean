import DaoMapper.Cql.CacheKey

-- Contexts that DAOs are built in, and their narrowing to a keyspace and a table.
namespace DaoMapper

open Cql

-- `state` names the custom state; contexts narrowed from one another share it.
structure Context where
  session : Value
  keyspace : Option Identifier
  table : Option Identifier
  state : Nat

namespace Context

def equal (a b : Context) : Bool :=
  a.session.same b.session && a.keyspace == b.keyspace && a.table == b.table

def narrowed (c : Context) (keyspace table : Option Identifier) : Context :=
  { c with keyspace := keyspace.or c.keyspace, table := table.or c.table }

-- Nothing where neither side changes: the context itself is the answer then.
def narrow? (c : Context) (keyspace table : Option Identifier) : Option Context :=
  let next := c.narrowed keyspace table
  if next.keyspace = c.keyspace ∧ next.table = c.table then none else some next

end Context

abbrev CustomState := List (String × Value)

def CustomState.get? (s : CustomState) (key : String) : Option Value :=
  (s.find? (·.1 == key)).map (·.2)

def CustomState.set (s : CustomState) (key : String) (value : Value) : CustomState :=
  match s with
  | [] => [(key, value)]
  | (k, v) :: rest => if k == key then (k, value) :: rest else (k, v) :: CustomState.set rest key value

structure Contexts where
  made : List Context
  states : List CustomState

namespace Contexts

def empty : Contexts := ⟨[], []⟩

def create (cs : Contexts) (session : Value) (keyspace table : NameArg) (state : CustomState) :
    Except NameError (Nat × Contexts) := do
  let k ← keyspace.resolve
  let t ← table.resolve
  let made : Context := ⟨session, k, t, cs.states.length⟩
  return (cs.made.length, ⟨cs.made ++ [made], cs.states ++ [state]⟩)

def narrow (cs : Contexts) (source : Nat) (keyspace table : Option Identifier) : Nat × Contexts :=
  match cs.made[source]?.bind (·.narrow? keyspace table) with
  | none => (source, cs)
  | some next => (cs.made.length, { cs with made := cs.made ++ [next] })

def stateOf (cs : Contexts) (c : Nat) : CustomState :=
  (cs.made[c]?.bind fun context => cs.states[context.state]?).getD []

def setState (cs : Contexts) (c : Nat) (key : String) (value : Value) : Contexts :=
  match cs.made[c]? with
  | none => cs
  | some context => { cs with states := cs.states.modify context.state (·.set key value) }

end Contexts

end DaoMapper
