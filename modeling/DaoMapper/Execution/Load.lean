import DaoMapper.Execution.Eval
import DaoMapper.Text.NormalForm

-- From a generated module to a class that can be used: its names have to be names,
-- its imports have to be there, and what its signatures mention has to exist.
namespace DaoMapper.Execution

open Code (Argument Class Expr Function Import Module Statement)
open Interface (ClassId Hierarchy)

def isFreeName (name : String) : Bool := Text.isName name.toList && !Text.isKeyword name.toList

mutual

def namesOf : Expr → List String
  | .name id => [id]
  | .field value name => name :: namesOf value
  | .call function arguments => namesOf function ++ namesOfAll arguments
  | .closure parameters body => parameters ++ namesOf body
  | .literal _ => []
  | .subscript value index => namesOf value ++ namesOf index

def namesOfAll : List Expr → List String
  | [] => []
  | e :: rest => namesOf e ++ namesOfAll rest

end

def statementNames : Statement → List String
  | .assign target value => namesOf target ++ namesOf value
  | .ret value => namesOf value

def functionNames (f : Function) : List String :=
  f.name :: f.arguments.flatMap (fun a => a.name :: ((a.type.map namesOf).getD [])) ++
    f.body.flatMap statementNames ++ namesOf f.returns

def importNames (i : Import) : List String :=
  (Text.splitAt '.' i.module.toList).map String.ofList ++ i.names

-- Inside a class, names with two leading underscores are the class's own.
def ownName (cls name : String) : String :=
  let cs := name.toList
  let stem := cls.toList.dropWhile (· = '_')
  if ['_', '_'].isPrefixOf cs && !(['_', '_'].isSuffixOf cs) && !stem.isEmpty then
    String.ofList ('_' :: stem ++ cs)
  else name

def inClass (cls name : String) : String := ownName (Text.normal cls) (Text.normal name)

def boundNames (f : Function) : List String :=
  f.name :: f.arguments.map (·.name) ++ f.body.filterMap fun
    | .assign (.name id) _ => some id
    | .assign (.field _ name) _ => some name
    | _ => none

-- One name of the language is no word of it, but nothing may be bound to it.
def isBindable (name : String) : Bool := Text.normal name != "__debug__"

def readable (m : Module) : Bool :=
  let names := m.imports.flatMap importNames ++ m.body.name :: namesOf m.body.base ++
    m.body.methods.flatMap functionNames
  let bound := m.imports.flatMap (·.names) ++ m.body.name :: m.body.methods.flatMap boundNames
  names.all isFreeName && bound.all isBindable && m.body.methods.all fun f =>
    let parameters := f.arguments.map fun a => inClass m.body.name a.name
    parameters.eraseDups.length = parameters.length

mutual

def renamed (rename : String → String) : Expr → Expr
  | .name id => .name (rename id)
  | .field value name => .field (renamed rename value) (rename name)
  | .call function arguments => .call (renamed rename function) (renamedAll rename arguments)
  | .closure parameters body => .closure (parameters.map rename) (renamed rename body)
  | .literal l => .literal l
  | .subscript value index => .subscript (renamed rename value) (renamed rename index)

def renamedAll (rename : String → String) : List Expr → List Expr
  | [] => []
  | e :: rest => renamed rename e :: renamedAll rename rest

end

def renamedStatement (rename : String → String) : Statement → Statement
  | .assign target value => .assign (renamed rename target) (renamed rename value)
  | .ret value => .ret (renamed rename value)

def renamedFunction (rename : String → String) (f : Function) : Function where
  name := rename f.name
  arguments := f.arguments.map fun a => ⟨rename a.name, a.type.map (renamed rename)⟩
  defaults := f.defaults
  body := f.body.map (renamedStatement rename)
  returns := renamed rename f.returns

def runtimeNames : List (String × RuntimeClass) := [
  ("AsyncLazyReference", .reference), ("DaoCache", .cache), ("DaoCacheKey", .cacheKey),
  ("MapperContext", .context)]

def offered? (h : Hierarchy) (module name : String) : Option Object :=
  match h.classAt? module name with
  | some c => some (.cls c)
  | none =>
    if module != "daogen.runtime" then none
    else if name == "Identifier" then some (.cls Hierarchy.identifierId)
    else ((runtimeNames.find? (·.1 == name)).map (·.2)).map .runtime

def bindImports (h : Hierarchy) (imports : List Import) : Eval Variables :=
  let wanted := imports.flatMap fun i => i.names.map fun name => (Text.normal i.module, Text.normal name)
  wanted.foldlM (fun (bound : Variables) (module, name) =>
    match offered? h module name with
    | some o => return bound.bind name o
    | none => throw .notImportable) []

-- Signatures are evaluated as their functions are defined, among those before them.
def checkSignatures (m : Loaded) (defined : Variables) : List Function → Eval Unit
  | [] => return ()
  | f :: rest => do
    for a in f.arguments do
      match a.type with
      | some t => let _ ← evaluate m defined t
      | none => pure ()
    let _ ← evaluate m defined f.returns
    checkSignatures m (defined.bind f.name .other) rest

def load (h : Hierarchy) (module : Module) : Eval Loaded := do
  if !readable module then throw .notReadable
  let globals ← bindImports h module.imports
  let functions := module.body.methods.map (renamedFunction (inClass module.body.name))
  let outside : Loaded := ⟨h, globals, Hierarchy.objectId, []⟩
  let .cls base ← evaluate outside [] (renamed Text.normal module.body.base) | throw .unfit
  checkSignatures outside [] functions
  return ⟨h, globals.bind (Text.normal module.body.name) .generated, base, functions⟩

end DaoMapper.Execution
