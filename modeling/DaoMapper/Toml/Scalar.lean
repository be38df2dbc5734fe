import DaoMapper.Toml.Text
import DaoMapper.Value.Calendar

-- Numbers, dates and times of TOML documents.
namespace DaoMapper.Toml

open Number (isDigit natOfDigits)

def digitsOf (isOne : Char → Bool) (after : Bool) : List Char → List Char × List Char
  | [] => ([], [])
  | c :: rest =>
    if isOne c then
      let run := digitsOf isOne true rest
      (c :: run.1, run.2)
    else if c = '_' && after && rest.head?.any isOne then digitsOf isOne false rest
    else ([], c :: rest)

def inBase (base : Nat) (digits : List Char) : Nat :=
  digits.foldl (fun n c => base * n + (hexValue? c).getD 0) 0

def based (base : Nat) (isOne : Char → Bool) (text : List Char) : Read Value :=
  match digitsOf isOne false text with
  | ([], _) => none
  | (digits, rest) => some (.int (inBase base digits), rest)

def prefixed (text : List Char) : Read Value :=
  match text with
  | '0' :: 'x' :: rest => based 16 (fun c => (hexValue? c).isSome) rest
  | '0' :: 'b' :: rest => based 2 (fun c => c = '0' || c = '1') rest
  | '0' :: 'o' :: rest => based 8 (fun c => '0' ≤ c && c ≤ '7') rest
  | _ => none

def wholeDigits (text : List Char) : List Char × List Char :=
  match text with
  | '0' :: rest => (['0'], rest)
  | _ => digitsOf isDigit false text

def fraction (text : List Char) : List Char × List Char :=
  match text with
  | '.' :: rest =>
    match digitsOf isDigit false rest with
    | ([], _) => ([], text)
    | run => run
  | _ => ([], text)

def exponent (text : List Char) : Option Int × List Char :=
  match text with
  | e :: rest =>
    if e = 'e' || e = 'E' then
      let (negative, digits) := Number.signOf rest
      match digitsOf isDigit false digits with
      | ([], _) => (none, text)
      | (run, left) =>
        let n : Int := natOfDigits run
        (some (if negative then -n else n), left)
    else (none, text)
  | [] => (none, text)

-- Whole numbers stay exact; a fraction or an exponent makes a floating one.
def decimal (text : List Char) : Read Value :=
  let (negative, digits) := Number.signOf text
  match wholeDigits digits with
  | ([], _) => none
  | (whole, rest) =>
    let (part, rest) := fraction rest
    let (e, rest) := exponent rest
    if part.isEmpty && e.isNone then
      let n : Int := natOfDigits whole
      some (.int (if negative then -n else n), rest)
    else
      some (.float (Number.Binary64.ofDecimal negative (natOfDigits (whole ++ part))
        (e.getD 0 - part.length)), rest)

def special (text : List Char) : Read Value :=
  let (negative, word) := Number.signOf text
  if startsWith "inf".toList word then some (.float (.infinite negative), word.drop 3)
  else if startsWith "nan".toList word then some (.float .undefined, word.drop 3)
  else none

def number (text : List Char) : Read Value :=
  ((prefixed text).or (decimal text)).or (special text)

def fixed (count : Nat) (text : List Char) : Read Nat :=
  let digits := text.take count
  if digits.length = count && digits.all isDigit then some (natOfDigits digits, text.drop count) else none

def expect (c : Char) : List Char → Option (List Char)
  | d :: rest => if d = c then some rest else none
  | [] => none

def clock (text : List Char) : Option (Clock × List Char) := do
  let (hour, rest) ← fixed 2 text
  let (minute, rest) ← fixed 2 (← expect ':' rest)
  let (second, rest) ← fixed 2 (← expect ':' rest)
  if 24 ≤ hour || 60 ≤ minute || 60 ≤ second then none
  let (micro, rest) := match rest with
    | '.' :: more =>
      let digits := more.takeWhile isDigit
      if digits.isEmpty then (0, rest) else (microseconds digits, more.dropWhile isDigit)
    | _ => (0, rest)
  return (⟨hour, minute, second, micro, none⟩, rest)

def offset (text : List Char) : Option (Int × List Char) := do
  match text with
  | [] => none
  | c :: rest =>
    if c = 'Z' || c = 'z' then return (0, rest)
    else if c = '+' || c = '-' then
      let (hour, rest) ← fixed 2 rest
      let (minute, rest) ← fixed 2 (← expect ':' rest)
      if 24 ≤ hour || 60 ≤ minute then none
      let seconds : Int := (hour * 3600 + minute * 60 : Nat)
      return (if c = '-' then -seconds else seconds, rest)
    else none

def dateFields (text : List Char) : Option (Date × List Char) := do
  let (year, rest) ← fixed 4 text
  let (month, rest) ← fixed 2 (← expect '-' rest)
  let (day, rest) ← fixed 2 (← expect '-' rest)
  if month = 0 || 12 < month || day = 0 || 31 < day then none
  return (⟨year, month, day⟩, rest)

def clockAfterDate (text : List Char) : Option (Clock × List Char) := do
  match text with
  | [] => none
  | c :: rest =>
    if c = 'T' || c = 't' || c = ' ' then
      let (t, rest) ← clock rest
      match offset rest with
      | some (seconds, left) => return ({ t with offset := some seconds }, left)
      | none => return (t, rest)
    else none

-- The inner option is empty where a date does not exist.
def dateOrMoment (text : List Char) : Option (Read Value) :=
  (dateFields text).map fun (d, rest) =>
    if !d.isValid then none
    else match clockAfterDate rest with
      | some (t, left) => some (.moment d t, left)
      | none => some (.date d, rest)

def scalar (text : List Char) : Read Value :=
  match dateOrMoment text with
  | some read => read
  | none =>
    match clock text with
    | some (t, rest) => some (.clock t, rest)
    | none => number text

end DaoMapper.Toml
