import DaoMapper.Settings.Source

-- Which file holds the settings.
namespace DaoMapper.Settings

open Files (Path Tree)

def projectPath : Path := ⟨0, [projectFile]⟩

def above (place : List String) : List (List String) :=
  (List.range place.length).reverse.map fun n => place.take n

-- A file that cannot be read ends the search.
def nearestProject (tree : Tree) : List (List String) → Except LoadFault Path
  | [] => .error .nowhere
  | place :: rest =>
    let candidate : Path := ⟨1, place ++ [projectFile]⟩
    if tree.has candidate then
      match readProject tree candidate with
      | .error f => .error f
      | .ok (some _) => .ok candidate
      | .ok none => nearestProject tree rest
    else nearestProject tree rest

-- The project file here counts whatever it says, one above if it says anything.
def locateProject (tree : Tree) : Except LoadFault Path :=
  if tree.has projectPath then .ok projectPath else nearestProject tree (above tree.current)

def locate (env : Environment) (tree : Tree) (asked : Option Path) :
    List Log.Event × Except LoadFault Path :=
  match asked with
  | some p => ([], if tree.has p then .ok p else .error (.absent p))
  | none =>
    match (env.given? "DAOGEN_CONFIG_PATH").map Path.ofText with
    | none => ([], locateProject tree)
    | some p =>
      if tree.has p then ([], .ok p)
      else ([⟨.warning, loggerName, "DAOGEN_CONFIG_PATH points to a missing file: " ++ p.text⟩],
        locateProject tree)

def asked (text : Option String) : Option Path := (text.filter (· ≠ "")).map Path.ofText

end DaoMapper.Settings
