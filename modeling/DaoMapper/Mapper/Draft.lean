import DaoMapper.Mapper.Diagnostic
import DaoMapper.Mapper.FieldName
import DaoMapper.Mapper.Method
import DaoMapper.Settings.Generator

-- A class in the making: the fields it has so far, and what was reported.
namespace DaoMapper.Mapper

open Code

structure SimpleField where
  name : String
  type : TypeRef
  implementation : TypeRef
  isAsync : Bool
  deriving DecidableEq, Repr

structure MapField where
  name : String
  type : TypeRef
  deriving DecidableEq, Repr

inductive Field where
  | simple (f : SimpleField)
  | map (f : MapField)
  deriving DecidableEq, Repr

def Field.name : Field → String
  | simple f => f.name
  | map f => f.name

structure Fields where
  taken : List String
  all : List Field
  deriving Repr

namespace Fields

def reserving (names : List String) : Fields := ⟨names, []⟩

def simple (fs : Fields) : List SimpleField :=
  fs.all.filterMap fun
    | .simple f => some f
    | .map _ => none

def maps (fs : Fields) : List MapField :=
  fs.all.filterMap fun
    | .map f => some f
    | .simple _ => none

end Fields

def Plan.field (p : Plan) (name : String) : Field :=
  let s := p.method.signature
  match p.mode with
  | .simple => .simple ⟨name, s.returns, p.method.implementation, s.isAsync⟩
  | .keyed => .map ⟨name, s.returns⟩

def Plan.allocate (p : Plan) (fs : Fields) (suggestion : String) : String × Fields :=
  let name := uniqueField fs.taken suggestion
  (name, ⟨name :: fs.taken, fs.all ++ [p.field name]⟩)

def Plan.function (p : Plan) (settings : Settings.Generator) (field : String) : Function :=
  let s := p.method.signature
  overriding s (body p.mode field p.method.implementation s.isAsync p.overrides settings.contextAttribute)

-- A method has its plan before it asks for a field, or its error is reported.
def FactoryMethod.construct (m : FactoryMethod) (fs : Fields) (r : Report) : Except Skip Plan × Fields × Report :=
  match m.plan with
  | .ok p => (.ok p, fs, r)
  | .error s => (.error s, fs, r.error s.location s.cause.message)

-- Another name than the suggested one is worth a warning.
def Plan.implement (p : Plan) (settings : Settings.Generator) (fs : Fields) (r : Report) :
    Function × Fields × Report :=
  let location := p.method.signature.location
  let suggestion := p.method.signature.name ++ settings.fieldSuffix.plain
  let (field, fs) := p.allocate fs suggestion
  let r := if field = suggestion then r
    else r.warn location ("Field '" ++ suggestion ++ "' is taken, using '" ++ field ++ "'")
  let r := r.log .debug "daogen.compiler.dao_factory_method"
    ("Generating " ++ location ++ " (" ++ p.mode.name ++ ") into field " ++ field)
  (p.function settings field, fs, r)

end DaoMapper.Mapper
