import DaoMapper.Interface.TypeForm

-- Classes and where their members come from: every class has one line of
-- ancestors, and a name means what the first class of the line that has it says.
namespace DaoMapper.Interface

open Mapper (TypeRef)

inductive ParameterKind where
  | positionalOnly
  | positional
  | variadic
  | keywordOnly
  | keywords
  deriving DecidableEq, Repr

structure ParameterDecl where
  name : String
  kind : ParameterKind
  type : Option TypeForm
  default? : Option Constant

-- A name in them means nothing, or another exception is raised.
inductive HintFault where
  | unknown (message : String)
  | raised (kind : String)
  deriving DecidableEq, Repr

-- All its parameters, the receiver too; annotations are what evaluating them gives.
structure FunctionDecl where
  parameters : List ParameterDecl
  returns : Option TypeForm
  fault : Option HintFault

-- At once, when awaited, or at once where an awaitable is expected.
inductive Construction where
  | immediate
  | awaited
  | unawaitable
  deriving DecidableEq, Repr

-- What a name means in one class. `primitive` is a function that is not declared.
inductive Attribute where
  | function (f : FunctionDecl) (isAbstract : Bool)
  | property
  | classMethod
  | value
  | primitive
  | builder (c : Construction)

namespace Attribute

def isAbstract : Attribute → Bool
  | function _ isAbstract => isAbstract
  | property | classMethod => true
  | _ => false

def callable : Attribute → Bool
  | property | value => false
  | _ => true

end Attribute

abbrev Attributes := List (String × Attribute)

def Attributes.put (attributes : Attributes) (name : String) (a : Attribute) : Attributes :=
  match attributes with
  | [] => [(name, a)]
  | (n, old) :: rest => if n == name then (n, a) :: rest else (n, old) :: Attributes.put rest name a

def Attributes.update (attributes : Attributes) (more : List (String × Attribute)) : Attributes :=
  more.foldl (fun attributes entry => attributes.put entry.1 entry.2) attributes

def Attributes.ofList (all : List (String × Attribute)) : Attributes := Attributes.update [] all

def Attributes.get? (attributes : Attributes) (name : String) : Option Attribute :=
  (attributes.find? (·.1 == name)).map (·.2)

def implementationName : String := "__dao_implementation__"

-- What stands for a class that is to be built: a class, or any other object with what
-- asking it gives. `builds` says whether it has something to call under a name; each
-- question may raise an exception of some kind.
inductive Implementer where
  | cls (c : ClassId)
  | object (builds : String → Except String Bool) (qualname text : Except String String)

-- `failure` is what the construction of each number raises, if it does.
structure ClassDecl where
  type : TypeRef
  bases : List ClassId
  keepsAbstract : Bool
  attributes : Attributes
  implementation : Option Implementer
  failure : Nat → Option String

-- A class in its place: `line` goes from the class to its farthest ancestor.
structure ClassInfo where
  decl : ClassDecl
  line : List ClassId
  keepsAbstract : Bool
  abstract : List String

structure Hierarchy where
  classes : Array ClassInfo

-- The next one is the first head that stands in no tail.
def merge : Nat → List (List ClassId) → Option (List ClassId)
  | 0, lines => if lines.all List.isEmpty then some [] else none
  | n + 1, lines =>
    let lines := lines.filter (!·.isEmpty)
    if lines.isEmpty then some []
    else
      match (lines.filterMap List.head?).find? fun c => lines.all fun line => !line.tail.contains c with
      | none => none
      | some next =>
        (merge n (lines.map fun line => if line.head? == some next then line.tail else line)).map (next :: ·)

namespace Hierarchy

def lineOf (h : Hierarchy) (c : ClassId) : List ClassId :=
  (h.classes[c]?.map (·.line)).getD []

def attributesOf (h : Hierarchy) (c : ClassId) : Attributes :=
  (h.classes[c]?.map (·.decl.attributes)).getD []

def type (h : Hierarchy) (c : ClassId) : TypeRef :=
  (h.classes[c]?.map (·.decl.type)).getD ⟨"", "", true⟩

def classAt? (h : Hierarchy) (module qualname : String) : Option ClassId :=
  (List.range h.classes.size).reverse.find? fun c => h.type c == ⟨module, qualname, true⟩

def innerClass? (h : Hierarchy) (outer : ClassId) (name : String) : Option ClassId :=
  h.classAt? (h.type outer).module ((h.type outer).qualname ++ "." ++ name)

def failure (h : Hierarchy) (c : ClassId) (n : Nat) : Option String := h.classes[c]?.bind (·.decl.failure n)

def keepsAbstract (h : Hierarchy) (c : ClassId) : Bool :=
  (h.classes[c]?.map (·.keepsAbstract)).getD false

def abstractOf (h : Hierarchy) (c : ClassId) : List String :=
  (h.classes[c]?.map (·.abstract)).getD []

def attributeAlong (h : Hierarchy) (line : List ClassId) (name : String) : Option Attribute :=
  line.findSome? fun c => (h.attributesOf c).get? name

def attribute? (h : Hierarchy) (c : ClassId) (name : String) : Option Attribute :=
  h.attributeAlong (h.lineOf c) name

def ancestors? (h : Hierarchy) (bases : List ClassId) : Option (List ClassId) :=
  if bases.eraseDups.length ≠ bases.length then none
  else
    let lines := bases.map h.lineOf ++ [bases]
    merge (lines.foldl (fun n line => n + line.length) 0) lines

-- An inherited name stays abstract as long as what it means now is abstract.
def abstractNames (h : Hierarchy) (d : ClassDecl) (ancestors : List ClassId) : List String :=
  let means (name : String) : Option Attribute :=
    (d.attributes.get? name).or (h.attributeAlong ancestors name)
  let own := (d.attributes.filter (·.2.isAbstract)).map (·.1)
  let inherited := (d.bases.flatMap h.abstractOf).filter fun name =>
    ((means name).map Attribute.isAbstract).getD false
  (own ++ inherited).eraseDups

-- Nothing where the bases cannot be ordered.
def declare? (h : Hierarchy) (object : ClassId) (d : ClassDecl) : Option Hierarchy := do
  let d := if d.bases.isEmpty then { d with bases := [object] } else d
  let ancestors ← h.ancestors? d.bases
  let keepsAbstract := d.keepsAbstract || d.bases.any h.keepsAbstract
  return ⟨h.classes.push ⟨d, h.classes.size :: ancestors, keepsAbstract,
    if keepsAbstract then h.abstractNames d ancestors else []⟩⟩

-- A function or attribute that was declared under that name builds nothing.
def memberImplementer (h : Hierarchy) (c : ClassId) (a : Attribute) : Implementer :=
  let qualname := (h.type c).qualname ++ "." ++ implementationName
  .object (fun _ => .ok false) (if a.callable then .ok qualname else .error "AttributeError") (.ok qualname)

-- What a class was declared with takes the place of a member of that name.
def implementer? (h : Hierarchy) (c : ClassId) : Option Implementer :=
  (h.classes[c]?.bind (·.decl.implementation)).or
    (((h.attributesOf c).get? implementationName).map (h.memberImplementer c))

-- What builds the DAOs of a class: what it or the first of its ancestors says, or itself.
def implementation (h : Hierarchy) (c : ClassId) : Implementer :=
  ((h.lineOf c).findSome? h.implementer?).getD (.cls c)

def membersAlong (h : Hierarchy) (c : ClassId) : Attributes :=
  (h.lineOf c).reverse.foldl (fun all a => all.update (h.attributesOf a)) []

def namesInOrder (h : Hierarchy) (c : ClassId) : List String := (h.membersAlong c).map (·.1)

end Hierarchy

def objectNames : List String := [
  "__new__", "__repr__", "__hash__", "__str__", "__getattribute__", "__setattr__", "__delattr__",
  "__lt__", "__le__", "__eq__", "__ne__", "__gt__", "__ge__", "__init__", "__reduce_ex__",
  "__reduce__", "__getstate__", "__subclasshook__", "__init_subclass__", "__format__",
  "__sizeof__", "__dir__", "__class__", "__doc__"]

def classNames : List String := ["__abstractmethods__", "__dict__", "__module__", "__weakref__", "_abc_impl"]

def standardNames : List String := objectNames ++ classNames

namespace Hierarchy

def objectId : ClassId := 1

def identifierId : ClassId := 3

def plainClass (module name : String) : ClassDecl where
  type := ⟨module, name, true⟩
  bases := []
  keepsAbstract := false
  attributes := []
  implementation := none
  failure := fun _ => none

def withAttributes (d : ClassDecl) (attributes : Attributes) : ClassDecl := { d with attributes }

def awaitableClass : ClassDecl :=
  let method : FunctionDecl := ⟨[⟨"self", .positional, none, none⟩], none, none⟩
  { plainClass "collections.abc" "Awaitable" with
    keepsAbstract := true
    attributes := [("__slots__", .value), ("__await__", .function method true), ("__class_getitem__", .primitive)] }

def builtinNames : List String := [
  "str", "int", "float", "bool", "bytes", "list", "dict", "tuple", "set", "frozenset", "type",
  "bytearray", "complex", "range", "slice", "memoryview", "property", "staticmethod", "classmethod",
  "super", "enumerate", "filter", "map", "zip", "reversed", "BaseException", "Exception",
  "ArithmeticError", "AssertionError", "AttributeError", "BaseExceptionGroup", "BlockingIOError",
  "BrokenPipeError", "BufferError", "BytesWarning", "ChildProcessError", "ConnectionAbortedError",
  "ConnectionError", "ConnectionRefusedError", "ConnectionResetError", "DeprecationWarning",
  "EOFError", "EncodingWarning", "ExceptionGroup", "FileExistsError", "FileNotFoundError",
  "FloatingPointError", "FutureWarning", "GeneratorExit", "ImportError", "ImportWarning",
  "IndentationError", "IndexError", "InterruptedError", "IsADirectoryError", "KeyError",
  "KeyboardInterrupt", "LookupError", "MemoryError", "ModuleNotFoundError", "NameError",
  "NotADirectoryError", "NotImplementedError", "OSError", "OverflowError",
  "PendingDeprecationWarning", "PermissionError", "ProcessLookupError", "RecursionError",
  "ReferenceError", "ResourceWarning", "RuntimeError", "RuntimeWarning", "StopAsyncIteration",
  "StopIteration", "SyntaxError", "SyntaxWarning", "SystemError", "SystemExit", "TabError",
  "TimeoutError", "TypeError", "UnboundLocalError", "UnicodeDecodeError", "UnicodeEncodeError",
  "UnicodeError", "UnicodeTranslateError", "UnicodeWarning", "UserWarning", "ValueError", "Warning",
  "ZeroDivisionError"]

def standardClasses : List ClassDecl :=
  [plainClass "builtins" "NoneType",
    withAttributes (plainClass "builtins" "object") (objectNames.map fun n => (n, .primitive)),
    plainClass "typing" "Any", plainClass "daogen.kernel.identifier" "Identifier", awaitableClass] ++
  builtinNames.map (plainClass "builtins")

-- Nothing stands above the class of all objects.
def standard : Hierarchy where
  classes := (standardClasses.mapIdx fun n d =>
    { decl := d
      line := if n = objectId then [objectId] else [n, objectId]
      keepsAbstract := d.keepsAbstract
      abstract := if d.keepsAbstract then (d.attributes.filter (·.2.isAbstract)).map (·.1) else [] }).toArray

def declareAll? (h : Hierarchy) : List ClassDecl → Option Hierarchy
  | [] => some h
  | d :: rest => (h.declare? objectId d).bind (·.declareAll? rest)

end Hierarchy

end DaoMapper.Interface
