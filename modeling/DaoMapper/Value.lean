import DaoMapper.Number.Decimal
import DaoMapper.Text.Quoted

-- Values that documents and defaults hold, and their texts.
namespace DaoMapper

open Number

structure Date where
  year : Nat
  month : Nat
  day : Nat
  deriving DecidableEq, Repr

-- `offset` is the distance from universal time in seconds, where it is known.
structure Clock where
  hour : Nat
  minute : Nat
  second : Nat
  micro : Nat
  offset : Option Int
  deriving DecidableEq, Repr

inductive Value where
  | null
  | bool (b : Bool)
  | int (n : Int)
  | float (x : Binary64)
  | text (s : String)
  | bytes (bs : List UInt8)
  | date (d : Date)
  | clock (t : Clock)
  | moment (d : Date) (t : Clock)
  | list (items : List Value)
  | tuple (items : List Value)
  | set (items : List Value)
  | map (entries : List (Value × Value))
  deriving Repr, Inhabited

namespace Value

-- Whether two values are one, not only the same to a comparison.
mutual

def eqv : Value → Value → Bool
  | .null, .null => true
  | .bool a, .bool b => a == b
  | .int m, .int n => m == n
  | .float x, .float y => x == y
  | .text s, .text t => s == t
  | .bytes bs, .bytes cs => bs == cs
  | .date d, .date e => d == e
  | .clock t, .clock u => t == u
  | .moment d t, .moment e u => d == e && t == u
  | .list items, .list others | .tuple items, .tuple others | .set items, .set others => eqvAll items others
  | .map entries, .map others => eqvEntries entries others
  | _, _ => false

def eqvAll : List Value → List Value → Bool
  | [], [] => true
  | v :: rest, w :: others => eqv v w && eqvAll rest others
  | _, _ => false

def eqvEntries : List (Value × Value) → List (Value × Value) → Bool
  | [], [] => true
  | (k, v) :: rest, (l, w) :: others => eqv k l && eqv v w && eqvEntries rest others
  | _, _ => false

end

mutual

theorem eqv_iff (v w : Value) : eqv v w = true ↔ v = w := by
  cases v with
  | list items | tuple items | set items => cases w <;> simp [eqv, eqvAll_iff items]
  | map entries => cases w <;> simp [eqv, eqvEntries_iff entries]
  | _ => cases w <;> simp [eqv]

theorem eqvAll_iff (items others : List Value) : eqvAll items others = true ↔ items = others := by
  cases items with
  | nil => cases others <;> simp [eqvAll]
  | cons v rest => cases others <;> simp [eqvAll, eqv_iff v, eqvAll_iff rest]

theorem eqvEntries_iff (entries others : List (Value × Value)) : eqvEntries entries others = true ↔ entries = others := by
  match entries, others with
  | [], [] | [], _ :: _ | _ :: _, [] => simp [eqvEntries]
  | (k, v) :: rest, (l, w) :: others =>
    simp [eqvEntries, eqv_iff k, eqv_iff v, eqvEntries_iff rest, and_assoc]

end

instance : DecidableEq Value := fun v w => decidable_of_iff (eqv v w = true) (eqv_iff v w)

def padded (width n : Nat) : String :=
  let digits := natDigits n
  String.ofList (zeros (width - digits.length) ++ digits)

def dateText (d : Date) : String := s!"{padded 4 d.year}-{padded 2 d.month}-{padded 2 d.day}"

def offsetText (seconds : Int) : String :=
  let n := seconds.natAbs
  let sign := if seconds < 0 then "-" else "+"
  let tail := if n % 60 = 0 then "" else ":" ++ padded 2 (n % 60)
  s!"{sign}{padded 2 (n / 3600)}:{padded 2 (n / 60 % 60)}{tail}"

def clockText (t : Clock) : String :=
  let micro := if t.micro = 0 then "" else "." ++ padded 6 t.micro
  let offset := (t.offset.map offsetText).getD ""
  s!"{padded 2 t.hour}:{padded 2 t.minute}:{padded 2 t.second}{micro}{offset}"

def clockArguments (t : Clock) : List String :=
  let small := if t.micro ≠ 0 then [toString t.second, toString t.micro]
    else if t.second ≠ 0 then [toString t.second] else []
  [toString t.hour, toString t.minute] ++ small

def zoneText (seconds : Int) : String :=
  if seconds = 0 then "datetime.timezone.utc"
  else
    let days := seconds.fdiv 86400
    let rest := seconds.fmod 86400
    let parts := (if days ≠ 0 then [s!"days={days}"] else []) ++ (if rest ≠ 0 then [s!"seconds={rest}"] else [])
    "datetime.timezone(datetime.timedelta(" ++ ", ".intercalate parts ++ "))"

def zoneArguments (t : Clock) : List String :=
  match t.offset with
  | some seconds => [s!"tzinfo={zoneText seconds}"]
  | none => []

def dateArguments (d : Date) : List String := [toString d.year, toString d.month, toString d.day]

def constructed (name : String) (arguments : List String) : String :=
  "datetime." ++ name ++ "(" ++ ", ".intercalate arguments ++ ")"

mutual

-- The form in which a value is quoted back in messages and generated code.
def shown : Value → String
  | null => "None"
  | bool b => if b then "True" else "False"
  | int n => toString n
  | float x => x.text
  | text s => Text.quoted s
  | bytes bs => Text.quotedBytes bs
  | date d => constructed "date" (dateArguments d)
  | clock t => constructed "time" (clockArguments t ++ zoneArguments t)
  | moment d t => constructed "datetime" (dateArguments d ++ clockArguments t ++ zoneArguments t)
  | list items => "[" ++ ", ".intercalate (shownAll items) ++ "]"
  | tuple items =>
    match shownAll items with
    | [one] => "(" ++ one ++ ",)"
    | many => "(" ++ ", ".intercalate many ++ ")"
  | set items =>
    match shownAll items with
    | [] => "set()"
    | members => "\x7b" ++ ", ".intercalate members ++ "\x7d"
  | map entries => "\x7b" ++ ", ".intercalate (shownEntries entries) ++ "\x7d"

def shownAll : List Value → List String
  | [] => []
  | v :: rest => shown v :: shownAll rest

def shownEntries : List (Value × Value) → List String
  | [] => []
  | (k, v) :: rest => (shown k ++ ": " ++ shown v) :: shownEntries rest

end

-- The form in which a value is inserted into a sentence: texts stand bare.
def plain : Value → String
  | text s => s
  | date d => dateText d
  | clock t => clockText t
  | moment d t => dateText d ++ " " ++ clockText t
  | v => shown v

def kindName : Value → String
  | null => "NoneType"
  | bool _ => "bool"
  | int _ => "int"
  | float _ => "float"
  | text _ => "str"
  | bytes _ => "bytes"
  | date _ => "date"
  | clock _ => "time"
  | moment _ _ => "datetime"
  | list _ => "list"
  | tuple _ => "tuple"
  | set _ => "set"
  | map _ => "dict"

-- Absent, zero and empty values count as not given.
def given : Value → Bool
  | null => false
  | bool b => b
  | int n => n ≠ 0
  | float x => !x.isZero
  | text s => s ≠ ""
  | bytes bs => !bs.isEmpty
  | list items | tuple items | set items => !items.isEmpty
  | map entries => !entries.isEmpty
  | _ => true

-- The whole number a value equals, truth values counting as 0 and 1.
def whole? : Value → Option Int
  | bool b => some (if b then 1 else 0)
  | int n => some n
  | float x => x.toInt?
  | _ => none

def floatBits : Value → Option Binary64
  | float x => some x
  | _ => none

mutual

-- Equality of values as keys: numbers of different kinds are equal by amount.
def same : Value → Value → Bool
  | null, null => true
  | text s, text t => s == t
  | bytes a, bytes b => a == b
  | date a, date b => a == b
  | clock a, clock b => a == b
  | moment a t, moment b u => a == b && t == u
  | list a, list b => sameAll a b
  | tuple a, tuple b => sameAll a b
  | set a, set b => sameAll a b
  | map a, map b => a.length == b.length && sameEntries a b
  | a, b =>
    match a.whole?, b.whole? with
    | some n, some m => n == m
    | _, _ =>
      match a.floatBits, b.floatBits with
      | some x, some y => x == y && x != .undefined
      | _, _ => false

def sameAll : List Value → List Value → Bool
  | [], [] => true
  | a :: as, b :: bs => same a b && sameAll as bs
  | _, _ => false

def sameEntries : List (Value × Value) → List (Value × Value) → Bool
  | [], _ => true
  | (k, v) :: rest, others =>
    others.any (fun other => same k other.1 && same v other.2) && sameEntries rest others

end

-- Lists, sets and mappings can change, so they are no keys.
mutual

def keyable : Value → Bool
  | list _ | set _ | map _ => false
  | tuple items => keyableAll items
  | _ => true

def keyableAll : List Value → Bool
  | [] => true
  | v :: rest => keyable v && keyableAll rest

end

-- An entry of a mapping; a key that is there keeps its place and its spelling.
def put (entries : List (Value × Value)) (key value : Value) : List (Value × Value) :=
  match entries with
  | [] => [(key, value)]
  | (k, v) :: rest => if same k key then (k, value) :: rest else (k, v) :: put rest key value

def find? (entries : List (Value × Value)) (key : String) : Option Value :=
  (entries.find? fun entry => same entry.1 (.text key)).map (·.2)

end Value

end DaoMapper
