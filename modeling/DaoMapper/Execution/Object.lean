import DaoMapper.Cache.Store
import DaoMapper.Code.Tree
import DaoMapper.Context
import DaoMapper.Interface.Hierarchy

-- What generated code works on, and the state it leaves.
namespace DaoMapper.Execution

open Code (Expr)
open Interface (ClassId Hierarchy)
open Mapper (Literal)

inductive RuntimeClass where
  | reference
  | cache
  | cacheKey
  | context
  deriving DecidableEq, Repr

-- Things with a state of their own are numbers into the heap. A closure keeps the
-- variables it was made among. `generated` is the class of the module itself, and
-- `other` what nothing is done with.
inductive Object where
  | literal (l : Literal)
  | identifier (i : Cql.Identifier)
  | key (k : Cql.CacheKey)
  | cls (c : ClassId)
  | runtime (r : RuntimeClass)
  | generated
  | context (n : Nat)
  | dao (n : Nat)
  | reference (n : Nat)
  | cache (n : Nat)
  | mapper (n : Nat)
  | coroutine (c : ClassId) (context : Nat)
  | bound (receiver : Object) (name : String)
  | closure (parameters : List String) (body : Expr) (bound : List (String × Object))
  | other
  deriving Inhabited

abbrev Variables := List (String × Object)

-- Why a step fails: an operation that is not there, a name that is not, a module
-- that cannot be imported or read, a DAO that fails, or a name that needs quotes.
inductive Failure where
  | unfit
  | noMember
  | noName
  | notImportable
  | notReadable
  | constructionFails (message : String)
  | badName (e : Cql.NameError)
  deriving DecidableEq, Repr

structure Dao where
  type : ClassId
  context : Nat
  deriving DecidableEq, Repr

-- Once it has started a reference keeps its ending.
structure LazyReference where
  factory : Object
  arguments : List Object
  ending : Option (Except Failure Object)

-- Context 0 is the one of the mappers; `failing` counts constructions from now on.
structure Heap where
  contexts : List Context
  daos : List Dao
  references : List LazyReference
  caches : List (Cache.Store Cql.CacheKey Object)
  mappers : List Variables
  failing : ClassId → Nat → Option String

abbrev Eval := ExceptT Failure (StateM Heap)

namespace Heap

def initial (context : Context) (failing : ClassId → Nat → Option String) : Heap :=
  ⟨[context], [], [], [], [], failing⟩

def attempted (h : Heap) (c : ClassId) : Heap :=
  { h with failing := fun other n => h.failing other (if other = c then n + 1 else n) }

end Heap

namespace Variables

def get? (bound : Variables) (name : String) : Option Object :=
  (bound.find? (·.1 == name)).map (·.2)

def bind (bound : Variables) (name : String) (o : Object) : Variables := (name, o) :: bound

def assign (bound : Variables) (name : String) (o : Object) : Variables :=
  match bound with
  | [] => [(name, o)]
  | (n, old) :: rest => if n == name then (n, o) :: rest else (n, old) :: Variables.assign rest name o

end Variables

def nullObject : Object := .literal .none

def ofIdentifier? : Option Cql.Identifier → Object
  | none => nullObject
  | some i => .identifier i

def asNameArg : Object → Option Cql.NameArg
  | .literal .none => some .absent
  | .literal (.text s) => some (.cql s)
  | .identifier i => some (.known i)
  | _ => none

def asIdentifier : Object → Option (Option Cql.Identifier)
  | .literal .none => some none
  | .identifier i => some (some i)
  | _ => none

end DaoMapper.Execution
