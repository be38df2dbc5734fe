import DaoMapper.Execution.Load
import DaoMapper.Mapper.Method

-- Which names generated code takes from outside its functions. A function binds its
-- parameters and the variables it assigns anywhere in its body, a closure its own
-- parameters; every other name is looked up in the module.
namespace DaoMapper.Code

mutual

def Expr.free (bound : List String) : Expr → List String
  | .name id => if bound.contains id then [] else [id]
  | .field value _ => value.free bound
  | .call function arguments => function.free bound ++ Expr.freeAll bound arguments
  | .closure parameters body => body.free (parameters ++ bound)
  | .literal _ => []
  | .subscript value index => value.free bound ++ index.free bound

def Expr.freeAll (bound : List String) : List Expr → List String
  | [] => []
  | e :: rest => e.free bound ++ Expr.freeAll bound rest

end

def Statement.free (bound : List String) : Statement → List String
  | .assign (.name _) value => value.free bound
  | .assign target value => value.free bound ++ target.free bound
  | .ret value => value.free bound

def Statement.assigned : Statement → List String
  | .assign (.name id) _ => [id]
  | _ => []

def Function.parameters (f : Function) : List String := f.arguments.map (·.name)

def Function.variables (f : Function) : List String := f.parameters ++ f.body.flatMap Statement.assigned

def Function.reads (f : Function) : List (List String) := f.body.map (Statement.free f.variables)

theorem free_fields (parts : List String) (e : Expr) (bound : List String) :
    (parts.foldl Expr.field e).free bound = e.free bound := by
  induction parts generalizing e with
  | nil => rfl
  | cons part rest ih => rw [List.foldl_cons, ih, Expr.free]

end DaoMapper.Code

namespace DaoMapper.Text

theorem splitAt_cons (separator : Char) (cs : List Char) :
    splitAt separator cs = cs.takeWhile (· ≠ separator) :: (splitAt separator cs).tail := by
  induction cs with
  | nil => rfl
  | cons c rest ih =>
    unfold splitAt
    by_cases same : c = separator
    · simp [same]
    · rw [ih]
      simp [same]

end DaoMapper.Text

namespace DaoMapper.Mapper

open Code

def TypeRef.path (t : TypeRef) : List String := (Text.splitAt '.' t.qualname.toList).tail.map String.ofList

theorem typeExpr_fields (t : TypeRef) : typeExpr t = t.path.foldl Expr.field (.name t.importName) := by
  unfold typeExpr Expr.dotted TypeRef.path TypeRef.importName
  rw [Text.splitAt_cons, List.foldl_map]
  rfl

end DaoMapper.Mapper

namespace DaoMapper.Execution

open Code

def functionsInClass (m : Module) : List Function := m.body.methods.map (renamedFunction (ownName m.body.name))

theorem renamed_fields (rename : String → String) (parts : List String) (e : Expr) :
    renamed rename (parts.foldl Expr.field e) = (parts.map rename).foldl Expr.field (renamed rename e) := by
  induction parts generalizing e with
  | nil => rfl
  | cons part rest ih => rw [List.foldl_cons, ih, renamed, List.map_cons, List.foldl_cons]

theorem renamed_typeExpr_free (rename : String → String) (t : Mapper.TypeRef) (bound : List String) :
    (renamed rename (Mapper.typeExpr t)).free bound =
      if bound.contains (rename t.importName) then [] else [rename t.importName] := by
  rw [Mapper.typeExpr_fields, renamed_fields, free_fields, renamed, Expr.free]

theorem ownName_plain (cls name : String) (plain : ['_', '_'].isPrefixOf name.toList = false) :
    ownName cls name = name := by
  simp [ownName, plain]

theorem ownName_special (cls name : String) (special : ['_', '_'].isSuffixOf name.toList = true) :
    ownName cls name = name := by
  simp [ownName, special]

theorem inClass_plain (cls name : String) (ascii : Text.isAscii name = true)
    (plain : ['_', '_'].isPrefixOf name.toList = false) : inClass cls name = name := by
  rw [inClass, Text.normal_ascii ascii, ownName_plain _ _ plain]

theorem inClass_special (cls name : String) (ascii : Text.isAscii name = true)
    (special : ['_', '_'].isSuffixOf name.toList = true) : inClass cls name = name := by
  rw [inClass, Text.normal_ascii ascii, ownName_special _ _ special]

theorem ownName_letter (letter : name.toList.head? ≠ some '_') : ownName cls other = name ↔ other = name := by
  unfold ownName
  dsimp only
  split
  · rename_i marked
    constructor
    · rintro rfl
      simp at letter
    · rintro rfl
      obtain ⟨rest, spelled⟩ : ['_', '_'] <+: other.toList := by
        simp only [Bool.and_eq_true, List.isPrefixOf_iff_prefix] at marked
        exact marked.1.1
      rw [← spelled] at letter
      simp at letter
  · rfl

end DaoMapper.Execution
