import DaoMapper.Yaml.Quoted

-- Kinds of nodes, and the kind that a plain scalar has by its looks.
namespace DaoMapper.Yaml

inductive Kind where
  | null
  | bool
  | int
  | float
  | timestamp
  | text
  | binary
  | merge
  | value
  | sequence
  | pairs
  | ordered
  | mapping
  | set
  | other
  deriving DecidableEq, Repr

-- The tag that gives a kind, without the address that all of them start with.
def Kind.word : Kind → String
  | null => "null"
  | bool => "bool"
  | int => "int"
  | float => "float"
  | timestamp => "timestamp"
  | text => "str"
  | binary => "binary"
  | merge => "merge"
  | value => "value"
  | sequence => "seq"
  | pairs => "pairs"
  | ordered => "omap"
  | mapping => "map"
  | set => "set"
  | other => ""

def Kind.all : List Kind :=
  [null, bool, int, float, timestamp, text, binary, merge, value, sequence, pairs, ordered, mapping, set]

def tagAddress : String := "tag:yaml.org,2002:"

def Kind.ofTag (tag : String) : Kind :=
  (Kind.all.find? fun k => tagAddress ++ k.word == tag).getD .other

def switchWords : List String :=
  ["yes", "Yes", "YES", "no", "No", "NO", "true", "True", "TRUE", "false", "False", "FALSE",
    "on", "On", "ON", "off", "Off", "OFF"]

def nullWords : List String := ["~", "null", "Null", "NULL", ""]

def isDigit (c : Char) : Bool := Number.isDigit c

def isDigitOr_ (c : Char) : Bool := isDigit c || c = '_'

def allOf (p : Char → Bool) (text : List Char) : Bool := !text.isEmpty && text.all p

def afterSign (text : List Char) : List Char := (Number.signOf text).2

-- The text is cut where a number's digits end; the first is no underscore.
def digitsThen (first : Char → Bool) (text : List Char) (rest : List Char → Bool) : Bool :=
  text.head?.any first && rest (text.dropWhile isDigitOr_)

def sixtieths : List Char → Option (List Char)
  | ':' :: a :: b :: rest =>
    if '0' ≤ a && a ≤ '5' && isDigit b then some ((sixtieths rest).getD rest)
    else if isDigit a then some ((sixtieths (b :: rest)).getD (b :: rest))
    else none
  | [':', a] => if isDigit a then some [] else none
  | _ => none

def isPositive (c : Char) : Bool := isDigit c && c ≠ '0'

def isInt (text : List Char) : Bool :=
  match afterSign text with
  | ['0'] => true
  | '0' :: 'b' :: rest => allOf (fun c => c = '0' || c = '1' || c = '_') rest
  | '0' :: 'x' :: rest => allOf (fun c => (hexValue? c).isSome || c = '_') rest
  | '0' :: rest => allOf (fun c => ('0' ≤ c && c ≤ '7') || c = '_') rest
  | digits => digitsThen isPositive digits fun rest =>
    rest.isEmpty || (sixtieths rest).any (·.isEmpty)

def isExponent : List Char → Bool
  | [] => true
  | e :: s :: rest => (e = 'e' || e = 'E') && (s = '+' || s = '-') && allOf isDigit rest
  | _ => false

def isFraction (exponents : Bool) : List Char → Bool
  | '.' :: rest =>
    let left := rest.dropWhile isDigitOr_
    left.isEmpty || (exponents && isExponent left)
  | _ => false

def isFloat (text : List Char) : Bool :=
  let unsigned := afterSign text
  let word := String.ofList unsigned
  digitsThen isDigit unsigned (fun rest =>
      isFraction true rest || (sixtieths rest).any (isFraction false)) ||
    (text.head? = some '.' && digitsThen isDigit (text.drop 1) isExponent) ||
    [".inf", ".Inf", ".INF"].contains word ||
    [".nan", ".NaN", ".NAN"].contains (String.ofList text)

structure Stamp where
  year : List Char
  month : List Char
  day : List Char
  clock : Option (List Char × List Char × List Char)
  fraction : List Char
  zone : Option (Char × List Char × List Char)

def digitsUpTo (count : Nat) (text : List Char) : List Char := (text.take count).takeWhile isDigit

def digitField (low high : Nat) (text : List Char) : Option (List Char × List Char) :=
  let run := digitsUpTo high text
  if low ≤ run.length then some (run, text.drop run.length) else none

def after? (c : Char) : List Char → Option (List Char)
  | d :: rest => if d = c then some rest else none
  | [] => none

def zone? (text : List Char) : Option (Option (Char × List Char × List Char)) :=
  match text.dropWhile isBlank with
  | [] => if text.isEmpty then some none else none
  | ['Z'] => some (some ('Z', [], []))
  | s :: rest =>
    if s = '+' || s = '-' then
      match digitField 1 2 rest with
      | some (hours, []) => some (some (s, hours, []))
      | some (hours, ':' :: minutes) =>
        if minutes.length = 2 && minutes.all isDigit then some (some (s, hours, minutes)) else none
      | _ => none
    else none

def afterDate? (text : List Char) : Option (List Char) :=
  match text with
  | c :: rest =>
    if c = 'T' || c = 't' then some rest else if isBlank c then some (rest.dropWhile isBlank) else none
  | [] => none

def stamp? (text : List Char) : Option Stamp := do
  let (year, rest) ← digitField 4 4 text
  let (month, rest) ← digitField 1 2 (← after? '-' rest)
  let (day, rest) ← digitField 1 2 (← after? '-' rest)
  if rest.isEmpty then return ⟨year, month, day, none, [], none⟩
  let (hour, rest) ← digitField 1 2 (← afterDate? rest)
  let (minute, rest) ← digitField 2 2 (← after? ':' rest)
  let (second, rest) ← digitField 2 2 (← after? ':' rest)
  let (fraction, rest) := match rest with
    | '.' :: more => (more.takeWhile isDigit, more.dropWhile isDigit)
    | _ => ([], rest)
  return ⟨year, month, day, some (hour, minute, second), fraction, ← zone? rest⟩

-- A date alone has two digits for month and day.
def isTimestamp (text : List Char) : Bool :=
  (stamp? text).any fun s => s.clock.isSome || (s.month.length = 2 && s.day.length = 2)

def Kind.ofPlain (text : List Char) : Kind :=
  let word := String.ofList text
  if switchWords.contains word then .bool
  else if isFloat text then .float
  else if isInt text then .int
  else if word = "<<" then .merge
  else if nullWords.contains word then .null
  else if isTimestamp text then .timestamp
  else if word = "=" then .value
  else .text

end DaoMapper.Yaml
