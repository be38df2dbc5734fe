import DaoMapper.Cache.Store
import DaoMapper.Cache.Reference

-- Runs of steps on one cache and the references around it. A factory may run
-- steps of its own before it returns or raises.
namespace DaoMapper.Cache

inductive Stored where
  | value (v : Value)
  | ref (n : Nat)

inductive Step where
  | compute (key : Key) (inner : List Step) (ending : Ending)
  | computeAsync (key : Key) (outcomes : List Outcome)
  | newRef (outcomes : List Outcome)
  | started (ref : Nat)
  | get (key : Key)
  | contains (key : Key)
  | len
  | clear
  | calls

inductive Answer where
  | computed (ending : Except String Stored) (called : Bool) (inner : List Answer) (size : Nat)
  | reference (stored : Stored) (started : Bool) (size : Option Nat)
  | started (b : Bool)
  | got (stored : Option Stored)
  | contained (b : Bool)
  | size (n : Nat)
  | calls (all : List Call)

-- `busy` are the keys whose computation is under way.
structure State where
  store : Store Key Stored
  busy : List Key
  refs : List Reference
  calls : List Call

namespace State

def initial : State := ⟨.empty, [], [], []⟩

def isStarted (s : State) (n : Nat) : Bool := (s.refs[n]?.map (·.phase.started)).getD false

def startedOf (s : State) : Stored → Bool
  | .ref n => s.isStarted n
  | .value _ => false

-- Emptying the cache also forgets which keys are under way.
def clear (s : State) : State := { s with store := .empty, busy := [] }

def addRef (s : State) (call : Call) (outcomes : List Outcome) : Nat × State :=
  (s.refs.length, { s with refs := s.refs ++ [.new call outcomes] })

-- A key that is under way would be waited for by the very one who computes it.
def enter? (s : State) (key : Key) : Option State :=
  if s.busy.contains key then none else some { s with busy := key :: s.busy }

def leave (s : State) (key : Key) : State := { s with busy := s.busy.filter (· ≠ key) }

mutual

-- Nothing is answered where a step would wait for itself.
def step (s : State) : Step → Option (State × Answer)
  | .compute key inner ending =>
    match s.store.get? key with
    | some stored => some (s, .computed (.ok stored) false [] s.store.size)
    | none => do
      let entered ← s.enter? key
      let (s, answers) ← steps { entered with calls := entered.calls ++ [.compute key] } inner
      let s := s.leave key
      match ending with
      | .error message => return (s, .computed (.error message) true answers s.store.size)
      | .ok value =>
        let s := { s with store := s.store.put key (.value value) }
        return (s, .computed (.ok (.value value)) true answers s.store.size)
  | .computeAsync key outcomes =>
    match s.store.get? key with
    | some stored => some (s, .reference stored (s.startedOf stored) s.store.size)
    | none => do
      let s ← s.enter? key
      let (n, s) := s.addRef (.async key) outcomes
      let s := { s.leave key with store := s.store.put key (.ref n) }
      return (s, .reference (.ref n) false s.store.size)
  | .newRef outcomes =>
    let (n, s) := s.addRef .ref outcomes
    some (s, .reference (.ref n) false none)
  | .started n => some (s, .started (s.isStarted n))
  | .get key => some (s, .got (s.store.get? key))
  | .contains key => some (s, .contained (s.store.contains key))
  | .len => some (s, .size s.store.size)
  | .clear => some (s.clear, .size 0)
  | .calls => some (s, .calls s.calls)

def steps (s : State) : List Step → Option (State × List Answer)
  | [] => some (s, [])
  | one :: rest => do
    let (s, answer) ← s.step one
    let (s, answers) ← s.steps rest
    return (s, answer :: answers)

end

def gather (s : State) (wanted : List Nat) : State × List (Option Ending) :=
  let (refs, calls, endings) := Cache.gather s.refs s.calls wanted
  ({ s with refs, calls }, endings)

end State

end DaoMapper.Cache
