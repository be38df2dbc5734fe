import DaoMapper.Value

-- JSON values, the fields of objects in the order in which they stand. A number is
-- kept as it is written.
namespace DaoMapper

inductive Json where
  | null
  | bool (b : Bool)
  | number (text : String)
  | text (s : String)
  | list (items : List Json)
  | object (fields : List (String × Json))
  deriving Repr, Inhabited

namespace Json

def ofNat (n : Nat) : Json := .number (toString n)

instance : Coe String Json := ⟨.text⟩

instance : Coe Bool Json := ⟨.bool⟩

instance : Coe Nat Json := ⟨.ofNat⟩

def ofTexts (texts : List String) : Json := .list (texts.map .text)

def ofText? : Option String → Json
  | none => .null
  | some s => .text s

def field? : Json → String → Option Json
  | object fields, name => (fields.find? (·.1 == name)).map (·.2)
  | _, _ => none

def field (j : Json) (name : String) : Json := (j.field? name).getD .null

def text? : Json → Option String
  | text s => some s
  | _ => none

def chars : Json → String
  | text s | number s => s
  | _ => ""

def items : Json → List Json
  | list js => js
  | _ => []

def fields : Json → List (String × Json)
  | object fs => fs
  | _ => []

def isTrue : Json → Bool
  | bool b => b
  | _ => false

def nat (j : Json) : Nat := j.chars.toNat?.getD 0

def textAt (j : Json) (name : String) : String := (j.field name).chars

def itemsAt (j : Json) (name : String) : List Json := (j.field name).items

def natAt (j : Json) (name : String) : Nat := (j.field name).nat

def isTrueAt (j : Json) (name : String) : Bool := (j.field name).isTrue

def textsAt (j : Json) (name : String) : List String := (j.itemsAt name).map chars

def textOr (j : Json) (name other : String) : String := ((j.field? name).map chars).getD other

def natOr (j : Json) (name : String) (other : Nat) : Nat := ((j.field? name).map nat).getD other

mutual

def toValue : Json → Value
  | null => .null
  | bool b => .bool b
  | number t =>
    match t.toInt? with
    | some n => .int n
    | none => .float ((Number.readDecimal? t).getD .undefined)
  | text s => .text s
  | list js => .list (toValues js)
  | object fs => .map (toEntries fs)

def toValues : List Json → List Value
  | [] => []
  | j :: rest => j.toValue :: toValues rest

def toEntries : List (String × Json) → List (Value × Value)
  | [] => []
  | (name, j) :: rest => (.text name, j.toValue) :: toEntries rest

end

def valuesAt (j : Json) (name : String) : List (String × Value) :=
  (j.field name).fields.map fun e => (e.1, e.2.toValue)

mutual

def ofValue : Value → Json
  | .null => .null
  | .bool b => .bool b
  | .int n => .number (toString n)
  | .float x => .object [("float", .text x.text)]
  | .text s => .text s
  | .list vs | .tuple vs => .list (ofValues vs)
  | .map es => .object (ofEntries es)
  | v => .text v.plain

def ofValues : List Value → List Json
  | [] => []
  | v :: rest => ofValue v :: ofValues rest

def ofEntries : List (Value × Value) → List (String × Json)
  | [] => []
  | (k, v) :: rest => (k.plain, ofValue v) :: ofEntries rest

end

end Json

end DaoMapper
