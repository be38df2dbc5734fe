import DaoMapper.Code.Tree
import DaoMapper.Mapper.Overrides

-- The override of a factory method.
namespace DaoMapper.Mapper

open Code

def typeExpr (t : TypeRef) : Expr := .dotted t.qualname

def cacheKeyName : String := "DaoCacheKey"

def awaitableName : String := "Awaitable"

-- One underscore more than those arguments need that look like the variable.
def keyVariableFrom (taken : List (Option String)) : Nat → String → String
  | 0, name => name
  | n + 1, name => if taken.contains (some name) then keyVariableFrom taken n (name ++ "_") else name

def keyVariable (o : Overrides) : String :=
  keyVariableFrom [o.keyspace, o.table] 2 "key"

def argumentOrNone : Option String → Expr
  | some name => .name name
  | none => .literal .none

def initName (isAsync : Bool) : String := if isAsync then "init_async" else "init"

def computeName (isAsync : Bool) : String :=
  if isAsync then "compute_if_absent_async" else "compute_if_absent"

def simpleBody (field : String) : List Statement := [.ret (.self field)]

def narrowedContext (contextAttribute : String) : Expr :=
  .call (.field (.self contextAttribute) "with_keyspace_and_table")
    [.field (.name "k") "keyspace_id", .field (.name "k") "table_id"]

def keyedBody (field : String) (implementation : TypeRef) (isAsync : Bool) (o : Overrides)
    (contextAttribute : String) : List Statement :=
  let key := keyVariable o
  let construction := .call (.field (typeExpr implementation) (initName isAsync))
    [narrowedContext contextAttribute]
  [.assign (.name key)
      (.call (.name cacheKeyName) [argumentOrNone o.keyspace, argumentOrNone o.table]),
    .ret (.call (.field (.self field) (computeName isAsync))
      [.name key, .closure ["k"] construction])]

def body (mode : CachingMode) (field : String) (implementation : TypeRef) (isAsync : Bool)
    (o : Overrides) (contextAttribute : String) : List Statement :=
  match mode with
  | .simple => simpleBody field
  | .keyed => keyedBody field implementation isAsync o contextAttribute

def returnExpr (s : Signature) : Expr :=
  if s.isAsync then .subscript (.name awaitableName) (typeExpr s.returns) else typeExpr s.returns

def overriding (s : Signature) (body : List Statement) : Function where
  name := s.name
  arguments := ⟨"self", none⟩ :: s.parameters.map fun p => ⟨p.name, some (typeExpr p.type)⟩
  defaults := s.parameters.filterMap (·.default?)
  body := body
  returns := returnExpr s

structure Plan where
  method : FactoryMethod
  overrides : Overrides
  deriving Repr

def Plan.mode (p : Plan) : CachingMode := p.overrides.mode

-- A keyed body reads these names from the module, so no parameter may bind them.
def bodyNames (m : FactoryMethod) : List String := [cacheKeyName, m.implementation.importName]

def FactoryMethod.plan (m : FactoryMethod) : Except Skip Plan := do
  let o ← m.signature.overrides
  match o.mode with
  | .simple => return ⟨m, o⟩
  | .keyed =>
    match m.signature.parameters.find? fun p => (bodyNames m).contains p.name with
    | some p => throw ⟨m.signature.parameterLocation p, .hidesName p.name⟩
    | none => return ⟨m, o⟩

end DaoMapper.Mapper
