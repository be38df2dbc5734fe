import DaoMapper.Execution.Load
import DaoMapper.Interface.Scan

-- Mappers in use: they are made, their methods are called, and DAOs come into being.
namespace DaoMapper.Execution

open Code (Function)
open Interface (Hierarchy Slot)

def Function.slots (f : Function) : List (Slot Object) :=
  let fallbacks := List.replicate (f.arguments.length - f.defaults.length) none ++ f.defaults.map some
  (f.arguments.zip fallbacks).map fun (a, l) => ⟨a.name, .positional, l.map .literal⟩

def callFunction (m : Loaded) (f : Function) (arguments : List Object) (keywords : Variables) : Eval Object :=
  match Slot.bind? (Function.slots f) arguments keywords with
  | some bound => execute m bound f.body
  | none => throw .unfit

def callMethod (m : Loaded) (mapper : Nat) (name : String) (arguments : List Object) (keywords : Variables) :
    Eval Object := do
  let .bound (.mapper _) name ← member m (.mapper mapper) name | throw .unfit
  match m.function? name with
  | some f => callFunction m f (.mapper mapper :: arguments) keywords
  | none =>
    match m.hierarchy.attribute? m.base name with
    | some (.function f _) => callDeclared f (.mapper mapper :: arguments) keywords
    | _ => throw .unfit

def openMembers (m : Loaded) : List String :=
  (m.hierarchy.abstractOf m.base).filter fun name => (m.function? name).isNone

def newMapper (m : Loaded) : Eval Nat := do
  if !(openMembers m).isEmpty then throw .unfit
  let n := (← get).mappers.length
  modify fun heap => { heap with mappers := heap.mappers ++ [([] : Variables)] }
  let _ ← callMethod m n "__init__" [.context 0] []
  return n

def awaited (m : Loaded) : Object → Eval Object
  | .reference n => awaitReference m n
  | o => return o

def identical : Object → Object → Bool
  | .dao a, .dao b => a == b
  | .reference a, .reference b => a == b
  | .literal a, .literal b => a == b
  | _, _ => false

structure Session where
  module : Loaded
  heap : Heap
  made : List Nat

namespace Session

def run {α : Type} (s : Session) (e : Eval α) : Except Failure α × Session :=
  let (result, heap) := (e.run).run s.heap
  (result, { s with heap })

def start (h : Hierarchy) (module : Code.Module) (context : Context) : Except Failure Session :=
  let (result, heap) := ((load h module).run).run (Heap.initial context h.failure)
  result.map fun m => ⟨m, heap, []⟩

def new (s : Session) : Except Failure Nat × Session :=
  let (result, next) := s.run (newMapper s.module)
  match result with
  | .ok n => (.ok s.made.length, { next with made := next.made ++ [n] })
  | .error f => (.error f, next)

def mapper? (s : Session) (on : Option Nat) : Option Nat :=
  match on with
  | some k => s.made[k]?
  | none => s.made.getLast?

def call (s : Session) (mapper : Nat) (name : String) (arguments : List Object) (keywords : Variables) :
    Except Failure Object × Session :=
  s.run (callMethod s.module mapper name arguments keywords)

def callAndAwait (s : Session) (mapper : Nat) (name : String) (arguments : List Object)
    (keywords : Variables) : Except Failure Object × Session :=
  s.run do awaited s.module (← callMethod s.module mapper name arguments keywords)

-- Several callers at once: whoever comes first makes what all get.
def race (s : Session) (mapper : Nat) (name : String) (arguments : List Object) (callers : Nat) :
    Except Failure Bool × Session :=
  s.run do
    let results ← (List.replicate callers ()).mapM fun _ => callMethod s.module mapper name arguments []
    return results.all fun a => results.all (identical a)

def fields (s : Session) (mapper : Nat) : Variables := s.heap.mappers[mapper]?.getD []

end Session

end DaoMapper.Execution
