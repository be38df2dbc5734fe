import DaoMapper.Files.Tree
import DaoMapper.Settings.Build
import DaoMapper.Toml.Document
import DaoMapper.Yaml.Library

-- Settings out of files: manifests, project files, and files of settings alone.
namespace DaoMapper.Settings

open Files (Path Tree PathFault)

inductive LoadFault where
  | settings (f : Fault)
  | absent (p : Path)
  | nowhere
  | file (f : PathFault)
  | yaml (kind : String)
  | toml
  deriving Repr

namespace LoadFault

def isMissing : LoadFault → Bool
  | absent _ | nowhere | file .missing => true
  | _ => false

def message? : LoadFault → Option String
  | settings f => f.problem?.map (·.message)
  | absent p => some ("Configuration file not found: " ++ p.text)
  | nowhere => some ("No configuration found: pass a kind: Config YAML file, set " ++
      "DAOGEN_CONFIG_PATH, or add [tool.daogen] to pyproject.toml")
  | _ => none

end LoadFault

def loggerName : String := "daogen.compiler.config_loader"

def refuse {α : Type} (component reason : String) : Except LoadFault α :=
  .error (.settings (.invalid component reason))

def manifestPart (p : Path) (document : Value) : Except LoadFault Value :=
  match document with
  | .map entries =>
    let kind := (Value.find? entries "kind").getD .null
    if !kind.same (.text "Config") then
      refuse p.name ("must use 'kind: Config' manifest format, got 'kind: " ++ kind.plain ++ "'")
    else match orEmpty (Value.find? entries "spec") with
      | .map spec => .ok (.map spec)
      | _ => refuse p.name "'spec' must be a mapping"
  | v => refuse p.name ("expected a mapping, got " ++ v.kindName)

def projectFile : String := "pyproject.toml"

-- In a file of any other name that has no such table all is settings.
def projectPart (p : Path) (document : List (Value × Value)) : Except LoadFault (Option Value) :=
  match (Value.find? document "tool").getD (.map []) with
  | .map tools =>
    match Value.find? tools "daogen" with
    | none => .ok (if p.name = projectFile then none else some (.map document))
    | some part => .ok (if part.given then some part else none)
  | _ => .error (.settings .lacksOperation)

def readText (tree : Tree) (p : Path) : Except LoadFault String := (tree.read p).mapError .file

def readProject (tree : Tree) (p : Path) : Except LoadFault (Option Value) := do
  match Toml.read? (← readText tree p) with
  | none => throw .toml
  | some document => projectPart p document

def isManifest (p : Path) : Bool := p.suffix = ".yaml" || p.suffix = ".yml"

section

variable [Yaml.Library]

def readManifest (tree : Tree) (p : Path) : Except LoadFault (Option Value) := do
  let document ← (Yaml.Library.read (← readText tree p)).mapError LoadFault.yaml
  return some (← manifestPart p document)

def readPart (tree : Tree) (p : Path) : Except LoadFault (Option Value) :=
  if isManifest p then readManifest tree p else readProject tree p

end

-- Without a part they are the usual ones, and variables do not count.
def settle (env : Environment) (p : Path) (part : Option Value) :
    List Log.Event × Except LoadFault Config :=
  match part with
  | some v => let r := build env (expand env v); (r.1, r.2.mapError .settings)
  | none => ([⟨.warning, loggerName, p.name ++ " has no [tool.daogen] table, using defaults"⟩], .ok .default)

def readConfig [Yaml.Library] (env : Environment) (tree : Tree) (p : Path) : List Log.Event × Except LoadFault Config :=
  let start : Log.Event := ⟨.info, loggerName, "Loading configuration from " ++ p.text⟩
  match readPart tree p with
  | .error f => ([start], .error f)
  | .ok part => let r := settle env p part; (start :: r.1, r.2)

end DaoMapper.Settings
