import DaoMapper.Code.Printer
import DaoMapper.Mapper.Draft
import DaoMapper.Mapper.Imports

-- The module that implements a mapper. A method that breaks a rule is left out;
-- its siblings are generated all the same.
namespace DaoMapper.Mapper

open Code

inductive Refusal where
  | notClass (shown : String)
  | noAbstractMethod (qualname : String)
  | contextTaken (qualname name : String)
  | clash (qualname : String) (c : Imports.Clash)
  deriving DecidableEq, Repr

def Imports.Clash.reason : Imports.Clash → String
  | localClass qualname => qualname ++ " is defined inside a function and cannot be imported"
  | twoModules name first second =>
    "name " ++ Text.quoted name ++ " is imported from both " ++ first ++ " and " ++ second

namespace Refusal

def mapper : Refusal → String
  | notClass shown => shown
  | noAbstractMethod qualname | contextTaken qualname _ | clash qualname _ => qualname

def reason : Refusal → String
  | notClass _ => "not a class"
  | noAbstractMethod _ => "declares no abstract factory method"
  | contextTaken _ name => "member " ++ Text.quoted name ++ " clashes with the context attribute"
  | clash _ c => c.reason

def problem (r : Refusal) : Problem := .scan (.text r.mapper) (.text r.reason)

end Refusal

structure Draft where
  fields : Fields
  imports : Imports
  generated : List String
  skipped : List String
  report : Report

namespace Draft

def initial (d : Declaration) (settings : Settings.Generator) (report : Report) : Draft where
  fields := .reserving (d.members ++ [settings.contextAttribute])
  imports := []
  generated := []
  skipped := d.skipped
  report := report

def runtimeModule : String := "daogen.runtime"

def awaitableModule : String := "collections.abc"

def loggerName : String := "daogen.compiler.mapper_generator"

def importRuntime (d : Draft) (names : List String) : Draft :=
  { d with imports := names.foldl (fun imports name => imports.add runtimeModule name) d.imports }

def passOver (d : Draft) (m : FactoryMethod) (s : Skip) : Draft :=
  { d with
    skipped := d.skipped ++ [m.signature.name]
    report := d.report.log .debug loggerName ("Skipping " ++ s.location ++ ": " ++ s.cause.message) }

-- The classes that the text of a method names, in the order they are imported.
def namedTypes (m : FactoryMethod) : List TypeRef :=
  m.signature.returns :: m.implementation :: m.signature.parameters.map (·.type)

def importAwaitable (d : Draft) (s : Signature) : Draft :=
  if s.isAsync then { d with imports := d.imports.add awaitableModule awaitableName } else d

def add (d : Draft) (settings : Settings.Generator) (p : Plan) : Draft × Except Imports.Clash Function :=
  let (function, fields, report) := p.implement settings d.fields d.report
  let (imports, clash) := d.imports.needAll (namedTypes p.method)
  let d := { d with fields, report, imports, generated := d.generated ++ [p.method.signature.name] }
  match clash with
  | some c => (d, .error c)
  | none => (d.importAwaitable p.method.signature, .ok function)

def methods (d : Draft) (settings : Settings.Generator) :
    List FactoryMethod → Draft × Except Imports.Clash (List Function)
  | [] => (d, .ok [])
  | m :: rest =>
    match m.construct d.fields d.report with
    | (.error s, fields, report) => (({ d with fields, report } : Draft).passOver m s).methods settings rest
    | (.ok p, fields, report) =>
      match ({ d with fields, report } : Draft).add settings p with
      | (d, .error c) => (d, .error c)
      | (d, .ok function) =>
        let (d, more) := d.methods settings rest
        (d, more.map (function :: ·))

def importFieldTypes (d : Draft) : Draft :=
  let d := if d.fields.maps.isEmpty then d else d.importRuntime [cacheKeyName, "DaoCache"]
  if d.fields.simple.any (·.isAsync) then d.importRuntime ["AsyncLazyReference"] else d

end Draft

-- A DAO is built at once, an async one when its reference is first awaited.
def SimpleField.value (f : SimpleField) : Expr :=
  let construction := Expr.call (.field (typeExpr f.implementation) (initName f.isAsync)) [.name "context"]
  if f.isAsync then .call (.name "AsyncLazyReference") [.closure [] construction] else construction

def SimpleField.assignment (f : SimpleField) : Statement := .assign (.self f.name) f.value

def MapField.assignment (f : MapField) : Statement := .assign (.self f.name) (.call (.name "DaoCache") [])

def initFunction (settings : Settings.Generator) (fs : Fields) : Function where
  name := "__init__"
  arguments := [⟨"self", none⟩, ⟨"context", some (.name "MapperContext")⟩]
  defaults := []
  body := .assign (.self settings.contextAttribute) (.name "context") ::
    (fs.simple.map SimpleField.assignment ++ fs.maps.map MapField.assignment)
  returns := .literal .none

def className (mapper : TypeRef) (settings : Settings.Generator) : String :=
  String.ofList (mapper.qualname.toList.map fun c => if c = '.' then '_' else c) ++
    settings.implementationSuffix.plain

def moduleOf (mapper : TypeRef) (settings : Settings.Generator) (d : Draft) (methods : List Function) :
    Module where
  doc := "Implementation of " ++ mapper.module ++ "." ++ mapper.qualname ++ "."
  imports := d.imports.statements
  body := {
    name := className mapper settings
    base := typeExpr mapper
    doc := "Generated implementation of " ++ mapper.qualname ++ "."
    methods := initFunction settings d.fields :: methods }

def Draft.run (d : Draft) (declaration : Declaration) (settings : Settings.Generator) :
    Draft × Except Refusal Module :=
  let mapper := declaration.mapper
  if declaration.members.contains settings.contextAttribute then
    (d, .error (.contextTaken mapper.qualname settings.contextAttribute))
  else
    match d.imports.need mapper with
    | .error c => (d, .error (.clash mapper.qualname c))
    | .ok imports =>
      let d := ({ d with imports } : Draft).importRuntime ["MapperContext"]
      match d.methods settings declaration.methods with
      | (d, .error c) => (d, .error (.clash mapper.qualname c))
      | (d, .ok methods) =>
        let d := d.importFieldTypes
        let message := "Generated " ++ className mapper settings ++ ": " ++ toString d.generated.length ++
          " method(s), " ++ toString d.skipped.length ++ " skipped"
        ({ d with report := d.report.log .info Draft.loggerName message },
          .ok (moduleOf mapper settings d methods))

structure Generator where
  declaration : Declaration
  settings : Settings.Generator
  draft : Draft
  built : Option Module

namespace Generator

def new (d : Declaration) (settings : Settings.Generator) (report : Report) : Generator :=
  ⟨d, settings, .initial d settings report, none⟩

def generate (g : Generator) : Generator × Except Refusal Module :=
  match g.built with
  | some m => (g, .ok m)
  | none =>
    match g.draft.run g.declaration g.settings with
    | (draft, .error r) => ({ g with draft }, .error r)
    | (draft, .ok m) => ({ g with draft, built := some m }, .ok m)

def text (g : Generator) (m : Module) : String :=
  "# " ++ g.settings.headerComment.plain ++ "\n" ++ m.text ++ "\n"

def render (g : Generator) : Generator × Except Refusal String :=
  let (g, result) := g.generate
  (g, result.map g.text)

end Generator

end DaoMapper.Mapper
