import DaoMapper.Cli.Run

-- What a command line may look at: files and variables, known before it is run.
namespace DaoMapper.Cli

open Files (Path Tree)

def taskOf? (words : List String) : Option Task :=
  match Opening.ofWords words with
  | .ok ⟨_, _, _, _, some (g, more)⟩ => (Task.ofWords g more).toOption
  | _ => none

def placeOf (current : List String) (p : Path) : List String :=
  p.parts.foldl Tree.step (if p.slashes = 0 then current else [])

def withAbove (place : List String) : List (List String) :=
  (List.range (place.length + 1)).map place.take

def places (current : List String) (env : Settings.Environment) (words : List String) : List (List String) :=
  let projects := (withAbove current).map (· ++ [Settings.projectFile])
  let asked (p : Option Path) : List (List String) := (p.map (placeOf current)).toList
  let named := asked ((env.given? "DAOGEN_CONFIG_PATH").map Path.ofText)
  let wanted := match taskOf? words with
    | some (.generate _ output config) => asked config ++ asked output
    | some (.showSettings config) => asked config
    | _ => []
  ((current :: projects ++ named ++ wanted).flatMap withAbove).eraseDups

def fixedVariables : List String :=
  ["DAOGEN_CONFIG_PATH", "DAOGEN_LOG_LEVEL", "DAOGEN_LOG_FORMAT", "DAOGEN_LOG_FILE", "DAOGEN_LOG_COLOR"]

def variablesIn : List Char → List String
  | '$' :: '\x7b' :: rest =>
    match Settings.reference? rest with
    | some (name, _) => String.ofList name :: variablesIn rest
    | none => variablesIn rest
  | _ :: rest => variablesIn rest
  | [] => []

def variableNames (t : Tree) : List String :=
  (t.entries.flatMap fun e => match e.2 with
    | .file text => variablesIn text.toList
    | .directory => []).eraseDups

def changes (before after : Tree) : List (List String × Files.Entry) :=
  after.entries.filter fun e => before.at? e.1 ≠ some e.2

end DaoMapper.Cli
