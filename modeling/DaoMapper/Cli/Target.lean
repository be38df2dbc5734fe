import DaoMapper.Cli.Words
import DaoMapper.Files.Tree
import DaoMapper.Interface.Hierarchy

-- The class that a target names. The modules of users are given by what importing one
-- comes to, and by what attributes of it lead to.
namespace DaoMapper.Cli

open Files (Tree)
open Interface (ClassId Hierarchy)

inductive ImportFault where
  | missing (message : String)
  | raised (kind : String)
  deriving DecidableEq, Repr

inductive AttributeFault where
  | missing
  | raised (kind : String)
  deriving DecidableEq, Repr

-- `classes` are all that there are by then; the object may be no class.
structure Imported where
  classes : Hierarchy
  find : List String → Except AttributeFault (Option ClassId)

abbrev Importer := Tree → String → Except ImportFault Imported

inductive TargetFault where
  | misuse (m : Misuse)
  | raised (kind : String)
  deriving DecidableEq, Repr

structure Target where
  module : String
  qualname : String
  deriving DecidableEq, Repr

def Target.ofWord? (word : String) : Option Target :=
  let cs := word.toList
  let module := cs.takeWhile (· ≠ ':')
  let qualname := (cs.dropWhile (· ≠ ':')).drop 1
  if module.isEmpty || qualname.isEmpty then none else some ⟨String.ofList module, String.ofList qualname⟩

namespace Importer

-- A name that starts with a dot says nothing without the module that it is said in.
def load (importer : Importer) (tree : Tree) (module : String) : Except TargetFault Imported :=
  if module.toList.head? = some '.' then .error (.raised "TypeError")
  else match importer tree module with
    | .ok m => .ok m
    | .error (.missing message) => .error (.misuse (.notImportable module message))
    | .error (.raised kind) => .error (.raised kind)

def find (importer : Importer) (tree : Tree) (word : String) : Except TargetFault (Hierarchy × ClassId) := do
  let some target := Target.ofWord? word | throw (.misuse (.notTarget word))
  let m ← importer.load tree target.module
  match m.find ((Text.splitAt '.' target.qualname.toList).map String.ofList) with
  | .ok (some c) => return (m.classes, c)
  | .ok none => throw (.misuse (.notClass word))
  | .error .missing => throw (.misuse (.noMember target.module target.qualname))
  | .error (.raised kind) => throw (.raised kind)

end Importer

end DaoMapper.Cli
