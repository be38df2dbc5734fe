import DaoMapper.Execution.Object
import DaoMapper.Interface.Binding

-- Expressions and statements of generated code.
namespace DaoMapper.Execution

open Code (Expr Function Statement)
open Interface (ClassId Construction Hierarchy)

-- A module that was read, with the class below which its own one stands.
structure Loaded where
  hierarchy : Hierarchy
  globals : Variables
  base : ClassId
  functions : List Function

namespace Loaded

def function? (m : Loaded) (name : String) : Option Function := m.functions.reverse.find? (·.name == name)

def builtin? (h : Hierarchy) (name : String) : Option Object := (h.classAt? "builtins" name).map .cls

def global? (m : Loaded) (name : String) : Option Object :=
  (Variables.get? m.globals name).or (builtin? m.hierarchy name)

end Loaded

def classMember? (h : Hierarchy) (c : ClassId) (name : String) : Option Object :=
  match h.innerClass? c name with
  | some inner => some (.cls inner)
  | none =>
    match h.attribute? c name with
    | none => none
    | some .value => some nullObject
    | some _ => some (.bound (.cls c) name)

def mapperMember? (m : Loaded) (fields : Variables) (n : Nat) (name : String) : Option Object :=
  match fields.get? name with
  | some o => some o
  | none =>
    if (m.function? name).isSome then some (.bound (.mapper n) name)
    else
      match m.hierarchy.attribute? m.base name with
      | none => none
      | some .value => some nullObject
      | some _ => some (.bound (.mapper n) name)

def cacheOperations : List String := ["compute_if_absent", "compute_if_absent_async"]

def member (m : Loaded) (o : Object) (name : String) : Eval Object := do
  let heap ← get
  let found : Option Object := match o with
    | .cls c => classMember? m.hierarchy c name
    | .mapper n => mapperMember? m (heap.mappers[n]?.getD []) n name
    | .context _ => if name == "with_keyspace_and_table" then some (.bound o name) else none
    | .cache _ => if cacheOperations.contains name then some (.bound o name) else none
    | .key k =>
      if name == "keyspace_id" then some (ofIdentifier? k.keyspace)
      else if name == "table_id" then some (ofIdentifier? k.table)
      else none
    | _ => none
  match found with
  | some o => return o
  | none => throw .noMember

def construct (h : Hierarchy) (c : ClassId) (context : Nat) : Eval Object := do
  let heap ← get
  set (heap.attempted c)
  match heap.failing c 0 with
  | some message => throw (.constructionFails message)
  | none =>
    if !(h.abstractOf c).isEmpty then throw .unfit
    let made : Dao := ⟨c, context⟩
    set { heap.attempted c with daos := heap.daos ++ [made] }
    return .dao heap.daos.length

-- A declared function does nothing with its arguments, but they have to fit.
def callDeclared (f : Interface.FunctionDecl) (arguments : List Object) (keywords : Variables) : Eval Object :=
  match Interface.Slot.bind? (f.slots nullObject) arguments keywords with
  | some _ => return nullObject
  | none => throw .unfit

def build (h : Hierarchy) (c : ClassId) (name : String) (arguments : List Object) : Eval Object :=
  match h.attribute? c name, arguments with
  | some (.builder .awaited), [.context context] => return .coroutine c context
  | some (.builder _), [.context context] => construct h c context
  | some (.function f _), _ => callDeclared f arguments []
  | some .classMethod, _ => return nullObject
  | _, _ => throw .unfit

def newReference (factory : Object) (arguments : List Object) : Eval Object := do
  let heap ← get
  let made : LazyReference := ⟨factory, arguments, none⟩
  set { heap with references := heap.references ++ [made] }
  return .reference heap.references.length

def newCache : Eval Object := do
  let heap ← get
  set { heap with caches := heap.caches ++ [Cache.Store.empty] }
  return .cache heap.caches.length

def newKey (keyspace table : Object) : Eval Object := do
  let read (o : Object) : Eval (Option Cql.Identifier) :=
    match asNameArg o with
    | none => throw .unfit
    | some a =>
      match a.resolve with
      | .ok i => return i
      | .error e => throw (.badName e)
  let k ← read keyspace
  let t ← read table
  return .key ⟨k, t⟩

def narrow (n : Nat) (keyspace table : Object) : Eval Object := do
  let heap ← get
  match asIdentifier keyspace, asIdentifier table, heap.contexts[n]? with
  | some k, some t, some context =>
    match context.narrow? k t with
    | none => return .context n
    | some next =>
      set { heap with contexts := heap.contexts ++ [next] }
      return .context heap.contexts.length
  | _, _, _ => throw .unfit

def computeIfAbsent (n : Nat) (key : Cql.CacheKey) (make : Eval Object) : Eval Object := do
  match ((← get).caches[n]?).bind (·.get? key) with
  | some o => return o
  | none =>
    let made ← make
    modify fun heap => { heap with caches := heap.caches.modify n (·.put key made) }
    return made

def callKnown (m : Loaded) (invoke : Object → List Object → Eval Object) :
    Object → List Object → Eval Object
  | .runtime .cacheKey, [keyspace, table] => newKey keyspace table
  | .runtime .cache, [] => newCache
  | .runtime .reference, [factory] => newReference factory []
  | .bound (.cls c) name, arguments => build m.hierarchy c name arguments
  | .bound (.context n) _, [keyspace, table] => narrow n keyspace table
  | .bound (.cache n) name, [.key key, factory] =>
    computeIfAbsent n key <|
      if name == "compute_if_absent" then invoke factory [.key key] else newReference factory [.key key]
  | _, _ => throw .unfit

def lookUp (m : Loaded) (bound : Variables) (name : String) : Eval Object :=
  match (bound.get? name).or (m.global? name) with
  | some o => return o
  | none => throw .noName

mutual

def eval (m : Loaded) (invoke : Object → List Object → Eval Object) (bound : Variables) :
    Expr → Eval Object
  | .name id => lookUp m bound id
  | .literal l => return .literal l
  | .field value name => do member m (← eval m invoke bound value) name
  | .closure parameters body => return .closure parameters body bound
  | .subscript value index => do
    let o ← eval m invoke bound value
    let _ ← eval m invoke bound index
    match o with
    | .cls c => if m.hierarchy.type c == ⟨"collections.abc", "Awaitable", true⟩ then return .other else throw .unfit
    | _ => throw .unfit
  | .call function arguments => do
    let f ← eval m invoke bound function
    let os ← evalAll m invoke bound arguments
    match f with
    | .closure .. => invoke f os
    | _ => callKnown m invoke f os

def evalAll (m : Loaded) (invoke : Object → List Object → Eval Object) (bound : Variables) :
    List Expr → Eval (List Object)
  | [] => return []
  | e :: rest => do
    let o ← eval m invoke bound e
    let os ← evalAll m invoke bound rest
    return o :: os

end

def invokeAt (m : Loaded) : Nat → Object → List Object → Eval Object
  | 0, _, _ => throw .unfit
  | depth + 1, .closure parameters body bound, arguments =>
    if parameters.length ≠ arguments.length then throw .unfit
    else eval m (invokeAt m depth) ((parameters.zip arguments).reverse ++ bound) body
  | depth + 1, o, arguments => callKnown m (invokeAt m depth) o arguments

-- A closure of generated code builds a DAO and calls no other closure, so a method,
-- its closure and what that calls are all the depth there is.
def invoke (m : Loaded) : Object → List Object → Eval Object := invokeAt m 3

def evaluate (m : Loaded) (bound : Variables) (e : Expr) : Eval Object := eval m (invoke m) bound e

def assignField (o : Object) (name : String) (value : Object) : Eval Unit :=
  match o with
  | .mapper n => modify fun heap =>
    { heap with mappers := heap.mappers.modify n fun fields => Variables.assign fields name value }
  | _ => throw .noMember

def execute (m : Loaded) (bound : Variables) : List Statement → Eval Object
  | [] => return nullObject
  | .ret value :: _ => evaluate m bound value
  | .assign (.name id) value :: rest => do
    let o ← evaluate m bound value
    execute m (bound.bind id o) rest
  | .assign (.field target name) value :: rest => do
    let o ← evaluate m bound value
    assignField (← evaluate m bound target) name o
    execute m bound rest
  | .assign _ _ :: _ => throw .unfit

-- A reference that has something to wait for keeps how that ended.
def awaitReference (m : Loaded) (n : Nat) : Eval Object := do
  match (← get).references[n]? with
  | none => throw .unfit
  | some r =>
    match r.ending with
    | some (.ok o) => return o
    | some (.error f) => throw f
    | none =>
      match ← invoke m r.factory r.arguments with
      | .coroutine c context =>
        let keep (ending : Except Failure Object) : Eval Unit := modify fun heap =>
          { heap with references := heap.references.modify n fun r => { r with ending := some ending } }
        let ending ← tryCatch (.ok <$> construct m.hierarchy c context) (fun f => return .error f)
        keep ending
        match ending with
        | .ok o => return o
        | .error f => throw f
      | _ => throw .unfit

end DaoMapper.Execution
