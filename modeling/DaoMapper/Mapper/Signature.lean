import DaoMapper.Problem
import DaoMapper.Text.Word

-- Factory methods as their mapper declares them.
namespace DaoMapper.Mapper

-- An annotation that is no class keeps its text and cannot be imported.
structure TypeRef where
  module : String
  qualname : String
  isClass : Bool
  deriving DecidableEq, Repr

namespace TypeRef

def isBuiltin (t : TypeRef) : Bool := t.module == "builtins"

-- The name to import so that the whole qualified name resolves.
def importName (t : TypeRef) : String := String.ofList (t.qualname.toList.takeWhile (· ≠ '.'))

def text : TypeRef := ⟨"builtins", "str", true⟩

def identifier : TypeRef := ⟨"daogen.kernel.identifier", "Identifier", true⟩

end TypeRef

inductive Role where
  | keyspace
  | table
  deriving DecidableEq, Repr

namespace Role

def name : Role → String
  | keyspace => "keyspace-override"
  | table => "table-override"

def marker : Role → String
  | keyspace => "DaoKeyspace"
  | table => "DaoTable"

end Role

inductive Literal where
  | none
  | bool (b : Bool)
  | int (n : Int)
  | float (x : Number.Binary64)
  | text (s : String)
  deriving DecidableEq, Repr

def Literal.toValue : Literal → Value
  | none => .null
  | bool b => .bool b
  | int n => .int n
  | float x => .float x
  | text s => .text s

structure Parameter where
  name : String
  type : TypeRef
  role : Option Role
  default? : Option Literal
  deriving DecidableEq, Repr

structure Signature where
  mapperName : String
  name : String
  parameters : List Parameter
  returns : TypeRef
  isAsync : Bool
  deriving DecidableEq, Repr

def Signature.location (s : Signature) : String := s.mapperName ++ "." ++ s.name

def Signature.parameterLocation (s : Signature) (p : Parameter) : String :=
  s.location ++ "(" ++ p.name ++ ")"

structure FactoryMethod where
  signature : Signature
  implementation : TypeRef
  deriving DecidableEq, Repr

structure Declaration where
  mapper : TypeRef
  methods : List FactoryMethod
  members : List String
  skipped : List String
  deriving Repr

end DaoMapper.Mapper
