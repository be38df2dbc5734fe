import DaoMapper.Cli.Needs
import DaoMapper.Cli.Terminal
import DaoMapper.Log.Loguru
import DaoMapper.Yaml.Safe

-- The command line program: it looks up the files and variables that a command may
-- need, has the command carried out, and hands on what comes of it. Modules of users are
-- not found from here.
namespace DaoMapper.Cli

open Files (Entry Path Tree)
open scoped Log.Loguru Terminal Yaml.Safe

def textOf (place : List String) : String := "/" ++ "/".intercalate place

def entryAt? (place : List String) : IO (Option Entry) := do
  let path := (← IO.currentDir) / textOf place
  if ← path.isDir then return some .directory
  try return some (.file (← IO.FS.readFile path)) catch _ => return none

def lookUp (t : Tree) (all : List (List String)) : IO Tree :=
  all.foldlM (fun t place => do
    if place.isEmpty then return t
    match ← entryAt? place with
    | some e => return t.put place e
    | none => return t) t

def setVariables (env : Settings.Environment) (names : List String) : IO Settings.Environment :=
  names.foldlM (fun (env : Settings.Environment) name => do
    match ← IO.getEnv name with
    | some value => return env.set name value
    | none => return env) env

def save (e : List String × Entry) : IO Unit :=
  match e.2 with
  | .directory => IO.FS.createDirAll (textOf e.1)
  | .file text => IO.FS.writeFile (textOf e.1) text

def noModules : Importer := fun _ module => .error (.missing ("No module named '" ++ module ++ "'"))

-- What a first run would write is looked up before the run that counts.
def act (words : List String) : IO UInt32 := do
  let current := (Path.ofText (← IO.currentDir).toString).parts
  let env ← setVariables ⟨[]⟩ fixedVariables
  let found ← lookUp ⟨[], current⟩ (places current env words)
  let env ← setVariables env (variableNames found)
  let outcome (t : Tree) : Outcome × Workspace :=
    (⟨t, env, .empty, ⟨.bare "-" "-", [], none⟩, noModules⟩ : Workspace).run words
  let found ← lookUp found ((changes found (outcome found).2.tree).map (·.1))
  let (o, w) := outcome found
  (changes found w.tree).forM save
  o.errors.forM fun line => IO.eprintln line
  IO.print o.output
  return o.code.toUInt32

end DaoMapper.Cli

def main (words : List String) : IO UInt32 := DaoMapper.Cli.act words
