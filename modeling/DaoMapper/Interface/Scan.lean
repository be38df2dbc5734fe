import DaoMapper.Interface.Hierarchy
import DaoMapper.Mapper.Generate

-- Reading the factory methods off a mapper class. A method that cannot be read is
-- reported and left out.
namespace DaoMapper.Interface

open Mapper (Declaration FactoryMethod Parameter Refusal Report Role Signature TypeRef)

-- The mapper is refused as such, or an exception is raised that nothing catches.
inductive ScanFault where
  | refused (r : Refusal)
  | raised (kind : String)
  deriving DecidableEq, Repr

inductive MethodFault where
  | skipped (location message : String)
  | raised (kind : String)
  deriving DecidableEq, Repr

-- An awaitable is one of exactly one thing.
def unwrap : TypeForm → Except String (TypeForm × Bool)
  | .awaitable _ [result] => .ok (result, true)
  | .awaitable _ _ => .error "ValueError"
  | a => .ok (a, false)

-- What the first marker gives for its role; the bare base class marks nothing.
def roleOf : List Metadata → Except String RoleValue
  | [] => .ok (.fit none)
  | .marker m :: _ => m.role
  | .markerClass .base :: rest => roleOf rest
  | .markerClass m :: _ => m.role
  | .constant _ :: rest => roleOf rest

def splitRole : TypeForm → Except String (TypeForm × RoleValue)
  | .annotated base metadata => (roleOf metadata).map ((base, ·))
  | a => .ok (a, .fit none)

def ParameterKind.overridable : ParameterKind → Bool
  | .positionalOnly | .positional => true
  | _ => false

def anyClass : ClassId := 2

namespace Hierarchy

def defaultOf (h : Hierarchy) (location : String) : Option Constant → Except MethodFault (Option Mapper.Literal)
  | none => .ok none
  | some c =>
    match c.literal?, c.shown h.type with
    | some l, _ => .ok (some l)
    | none, .ok text =>
      .error (.skipped location ("Default value " ++ text ++ " cannot be repeated in generated code"))
    | none, .error kind => .error (.raised kind)

def parameter (h : Hierarchy) (location : String) (p : ParameterDecl) : Except MethodFault Parameter := do
  let location := location ++ "(" ++ p.name ++ ")"
  if !p.kind.overridable then
    throw (.skipped location "Only positional parameters are supported")
  let (type, role) ← (splitRole (p.type.getD (.cls anyClass))).mapError .raised
  let default? ← h.defaultOf location p.default?
  let type ← (type.typeRef h.type).mapError .raised
  let role ← role.accepted.mapError .raised
  return ⟨p.name, type, role, default?⟩

def builder (h : Hierarchy) (location init : String) (i : Implementer) : Except MethodFault Unit :=
  let lacking (qualname : String) : MethodFault :=
    .skipped location (qualname ++ " does not define " ++ init ++ "(context)")
  match i with
  | .cls c =>
    if ((h.attribute? c init).map Attribute.callable).getD false then .ok ()
    else .error (lacking (h.type c).qualname)
  | .object builds qualname _ =>
    match builds init, qualname with
    | .ok true, _ => .ok ()
    | .ok false, .ok qualname => .error (lacking qualname)
    | .error kind, _ | .ok false, .error kind => .error (.raised kind)

def implementerRef (h : Hierarchy) : Implementer → Except String TypeRef
  | .cls c => .ok (h.type c)
  | .object _ _ text => text.map textRef

def method (h : Hierarchy) (mapper : ClassId) (name : String) : Except MethodFault FactoryMethod := do
  let mapperName := (h.type mapper).qualname
  let location := mapperName ++ "." ++ name
  let skip {α : Type} (message : String) : Except MethodFault α := throw (.skipped location message)
  let some (.function f _) := h.attribute? mapper name | skip "Abstract member is not a plain method"
  match f.fault with
  | some (.unknown message) => skip ("Cannot resolve annotations: " ++ message)
  | some (.raised kind) => throw (.raised kind)
  | none =>
    let some returns := f.returns | skip "Factory method must declare its DAO return type"
    let (dao, isAsync) ← (unwrap returns).mapError .raised
    let some dao := dao.class?
      | let text ← (returns.shown h.type).mapError .raised
        skip ("Return type must be a DAO class or Awaitable of one (got " ++ text ++ ")")
    let implementation := h.implementation dao
    h.builder location (Mapper.initName isAsync) implementation
    let parameters ← f.parameters.tail.mapM (h.parameter location)
    let maker ← (h.implementerRef implementation).mapError .raised
    return ⟨⟨mapperName, name, parameters, h.type dao, isAsync⟩, maker⟩

end Hierarchy

structure Scanned where
  methods : List FactoryMethod
  skipped : List String
  report : Report

def Scanned.readAll (s : Scanned) (h : Hierarchy) (mapper : ClassId) :
    List String → Scanned × Option String
  | [] => (s, none)
  | name :: rest =>
    match h.method mapper name with
    | .ok m => ({ s with methods := s.methods ++ [m] }).readAll h mapper rest
    | .error (.skipped location message) =>
      ({ s with skipped := s.skipped ++ [name], report := s.report.error location message }).readAll h mapper rest
    | .error (.raised kind) => (s, some kind)

namespace Hierarchy

-- The abstract members, in the order of their first definition, base classes first.
def abstractInOrder (h : Hierarchy) (mapper : ClassId) : List String :=
  (h.namesInOrder mapper).filter (h.abstractOf mapper).contains

def membersOf (h : Hierarchy) (c : ClassId) : List String :=
  let declared := (h.lineOf c).any fun a => (h.classes[a]?.bind (·.decl.implementation)).isSome
  (h.namesInOrder c ++ (if declared then [implementationName] else []) ++ classNames).eraseDups

def scannerName : String := "daogen.compiler.scanner"

def scanClass (h : Hierarchy) (mapper : ClassId) (report : Report) : Report × Except ScanFault Declaration :=
  let type := h.type mapper
  match h.abstractInOrder mapper with
  | [] => (report, .error (.refused (.noAbstractMethod type.qualname)))
  | names =>
    match (⟨[], [], report⟩ : Scanned).readAll h mapper names with
    | (s, some kind) => (s.report, .error (.raised kind))
    | (s, none) =>
      let message := "Scanned " ++ type.qualname ++ ": " ++ toString s.methods.length ++ " factory method(s)"
      (s.report.log .debug scannerName message, .ok ⟨type, s.methods, h.membersOf mapper, s.skipped⟩)

def scan (h : Hierarchy) (target : Constant) (report : Report) : Report × Except ScanFault Declaration :=
  match target with
  | .type c => h.scanClass c report
  | other =>
    match other.shown h.type with
    | .ok text => (report, .error (.refused (.notClass text)))
    | .error kind => (report, .error (.raised kind))

structure Implemented where
  declaration : Declaration
  module : Code.Module
  text : String

def implement (h : Hierarchy) (target : Constant) (settings : Settings.Generator) (report : Report) :
    Report × Except ScanFault Implemented :=
  match h.scan target report with
  | (report, .error f) => (report, .error f)
  | (report, .ok d) =>
    let (g, result) := (Mapper.Generator.new d settings report).generate
    (g.draft.report, (result.mapError .refused).map fun m => ⟨d, m, g.text m⟩)

end Hierarchy

end DaoMapper.Interface
