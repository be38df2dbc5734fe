import DaoMapper.Text.Case
import DaoMapper.Value

-- Environment variables, and texts that refer to them.
namespace DaoMapper.Settings

structure Environment where
  entries : List (String × String)

namespace Environment

def get? (env : Environment) (name : String) : Option String :=
  (env.entries.find? (·.1 == name)).map (·.2)

def given? (env : Environment) (name : String) : Option String :=
  (env.get? name).filter (· != "")

def unset (env : Environment) (name : String) : Environment :=
  ⟨env.entries.filter (·.1 != name)⟩

def set (env : Environment) (name value : String) : Environment :=
  ⟨(env.unset name).entries ++ [(name, value)]⟩

def ofList (all : List (String × String)) : Environment :=
  all.foldl (fun env entry => env.set entry.1 entry.2) ⟨[]⟩

end Environment

-- A reference without a name is none.
def reference? (text : List Char) : Option (List Char × List Char) :=
  let name := text.takeWhile (· ≠ '\x7d')
  match text.dropWhile (· ≠ '\x7d') with
  | _ :: rest => if name.isEmpty then none else some (name, rest)
  | [] => none

theorem reference?_shorter {text name rest : List Char} (h : reference? text = some (name, rest)) :
    rest.length < text.length := by
  unfold reference? at h
  have shorter : (text.dropWhile (· ≠ '\x7d')).length ≤ text.length :=
    (List.dropWhile_sublist _).length_le
  cases found : text.dropWhile (· ≠ '\x7d') with
  | nil => simp only [found] at h; cases h
  | cons c more =>
    simp only [found] at h
    split at h
    · cases h
    · cases h
      simp only [found, List.length_cons] at shorter
      omega

-- A variable that is not set keeps its reference. What was put in is not read again.
def expandChars (env : Environment) : List Char → List Char
  | '$' :: '\x7b' :: text =>
    match h : reference? text with
    | some (name, rest) =>
      have := reference?_shorter h
      let value := match env.get? (String.ofList name) with
        | some value => value.toList
        | none => '$' :: '\x7b' :: name ++ ['\x7d']
      value ++ expandChars env rest
    | none => '$' :: expandChars env ('\x7b' :: text)
  | c :: text => c :: expandChars env text
  | [] => []
termination_by text => text.length
decreasing_by all_goals simp only [List.length_cons]; omega

def expandText (env : Environment) (s : String) : String := String.ofList (expandChars env s.toList)

mutual

def expand (env : Environment) : Value → Value
  | .text s => .text (expandText env s)
  | .list items => .list (expandAll env items)
  | .map entries => .map (expandEntries env entries)
  | v => v

def expandAll (env : Environment) : List Value → List Value
  | [] => []
  | v :: rest => expand env v :: expandAll env rest

def expandEntries (env : Environment) : List (Value × Value) → List (Value × Value)
  | [] => []
  | (k, v) :: rest => (k, expand env v) :: expandEntries env rest

end

def trueWords : List String := ["1", "true", "yes", "on", "enabled"]

def falseWords : List String := ["0", "false", "no", "off", "disabled"]

def readSwitch? (s : String) : Option Bool :=
  let word := String.ofList (Text.lower (Text.trim s.toList))
  if trueWords.contains word then some true else if falseWords.contains word then some false else none

def switchWords : List String := (trueWords ++ falseWords).mergeSort fun a b => !(b < a)

def notSwitch (s : String) : String :=
  "Invalid boolean value: " ++ Text.quoted s ++ ". Expected one of: " ++
    (Value.list (switchWords.map .text)).shown

end DaoMapper.Settings
