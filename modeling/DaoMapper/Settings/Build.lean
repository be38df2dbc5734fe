import DaoMapper.Log.Event
import DaoMapper.Settings.Environment
import DaoMapper.Settings.Logging
import DaoMapper.Value.Order

-- Settings out of the sections of a document. Variables of the environment win
-- over what the document says about the log.
namespace DaoMapper.Settings

-- The keys of a mapping, the items of a list, the characters of a text.
def items? : Value → Option (List Value)
  | .map entries => some (entries.map (·.1))
  | .list items | .tuple items | .set items => some items
  | .text s => some (s.toList.map fun c => .text c.toString)
  | .bytes bs => some (bs.map fun b => .int b.toNat)
  | _ => none

def distinct (values : List Value) : List Value := values.eraseDupsBy Value.same

def checkNames (component what : String) (known : List String) (part : Value) : Except Fault Unit := do
  let some items := items? part | throw .unfit
  if !items.all Value.keyable then throw .unfit
  let unknown := (distinct items).filter fun v => !known.any fun name => v.same (.text name)
  if !unknown.isEmpty then
    let some names := Value.sorted? unknown | throw .unfit
    throw (.invalid component ("unknown " ++ what ++ ": " ++ (Value.list names).shown))

def orEmpty : Option Value → Value
  | some v => if v.given then v else .map []
  | none => .map []

def entriesOf (entries : List (Value × Value)) : List (String × Value) :=
  entries.map fun e => (e.1.plain, e.2)

def overlay (values : List (String × Value)) (name : String) (value : Option Value) : List (String × Value) :=
  match value with
  | some v => values.filter (·.1 != name) ++ [(name, v)]
  | none => values

def colorSwitch (env : Environment) : Option Value × List Log.Event :=
  match env.given? "DAOGEN_LOG_COLOR" with
  | none => (none, [])
  | some word =>
    match readSwitch? word with
    | some b => (some (.bool b), [])
    | none => (none, [⟨.warning, "daogen.compiler.config_loader", "Ignoring DAOGEN_LOG_COLOR: " ++ notSwitch word⟩])

def withEnvironment (env : Environment) (values : List (String × Value)) (color : Option Value) :
    List (String × Value) :=
  let text (name : String) (change : String → String) : Option Value :=
    (env.given? name).map fun s => .text (change s)
  let values := overlay values "level" (text "DAOGEN_LOG_LEVEL" Text.upperText)
  let values := overlay values "format" (text "DAOGEN_LOG_FORMAT" Text.lowerText)
  let values := overlay values "output_file" (text "DAOGEN_LOG_FILE" id)
  overlay values "use_color" color

abbrev Logged (α : Type) := List Log.Event × Except Fault α

def loggingOf (env : Environment) (part : Value) : Logged Logging :=
  match checkNames "logging" "keys" Logging.fieldNames part, part with
  | .error f, _ => ([], .error f)
  | .ok _, .map entries =>
    let (color, events) := colorSwitch env
    (events, Logging.ofFields (withEnvironment env (entriesOf entries) color))
  | .ok _, _ => ([], .error .wrongShape)

def generatorOf (part : Value) : Except Fault Generator := do
  checkNames "generator" "keys" Generator.fieldNames part
  match part with
  | .map entries => Generator.ofFields (entriesOf entries)
  | _ => throw .unfit

-- The log's section is read before the generator's, so its fault wins.
def build (env : Environment) (part : Value) : Logged Config :=
  match checkNames "daogen" "sections" ["logging", "generator"] part, part with
  | .error f, _ => ([], .error f)
  | .ok _, .map entries =>
    let (events, logging) := loggingOf env (orEmpty (Value.find? entries "logging"))
    (events, do
      let l ← logging
      let g ← generatorOf (orEmpty (Value.find? entries "generator"))
      return ⟨l, g⟩)
  | .ok _, _ => ([], .error .lacksOperation)

end DaoMapper.Settings
