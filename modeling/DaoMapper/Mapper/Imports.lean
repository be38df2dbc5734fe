import DaoMapper.Mapper.Signature
import DaoMapper.Code.Tree

-- What a generated module imports: names by module, modules in order of first use.
namespace DaoMapper.Mapper

abbrev Imports := List (String × List String)

namespace Imports

def addName (names : List String) (name : String) : List String :=
  if names.contains name then names else names ++ [name]

def add (imports : Imports) (module name : String) : Imports :=
  match imports with
  | [] => [(module, [name])]
  | (m, names) :: rest =>
    if m == module then (m, addName names name) :: rest else (m, names) :: Imports.add rest module name

inductive Clash where
  | localClass (qualname : String)
  | twoModules (name first second : String)
  deriving DecidableEq, Repr

-- Builtins and texts need no import; one name cannot come from two modules.
def need (imports : Imports) (t : TypeRef) : Except Clash Imports :=
  if t.isBuiltin || !t.isClass then .ok imports
  else if Text.occurs "<locals>".toList t.qualname.toList then .error (.localClass t.qualname)
  else
    match imports.find? fun i => i.2.contains t.importName && i.1 != t.module with
    | some (module, _) => .error (.twoModules t.importName module t.module)
    | none => .ok (imports.add t.module t.importName)

def needAll (imports : Imports) : List TypeRef → Imports × Option Clash
  | [] => (imports, none)
  | t :: rest =>
    match imports.need t with
    | .error clash => (imports, some clash)
    | .ok next => needAll next rest

def sortTexts (texts : List String) : List String := texts.mergeSort fun a b => !(b < a)

def statements (imports : Imports) : List Code.Import :=
  (sortTexts (imports.map (·.1))).map fun module =>
    ⟨module, sortTexts (((imports.find? (·.1 == module)).map (·.2)).getD [])⟩

end Imports

end DaoMapper.Mapper
