import DaoMapper.Text.Word
import DaoMapper.Value.Calendar
import DaoMapper.Yaml.Binary
import DaoMapper.Yaml.Kind

-- Values of scalars whose kind is known.
namespace DaoMapper.Yaml

open Number (Binary64)

def baseMark? : Nat → Option Char
  | 2 => some 'b'
  | 8 => some 'o'
  | 16 => some 'x'
  | _ => none

def dropBase (base : Nat) (text : List Char) : List Char :=
  match text with
  | '0' :: m :: rest => if baseMark? base = some m.toLower then rest else text
  | _ => text

def wholeIn (base : Nat) (text : List Char) : Except Fault Int :=
  let (negative, rest) := Number.signOf (Text.trim text)
  let digits := dropBase base rest
  match digits.mapM fun c => (hexValue? c).filter (· < base) with
  | none | some [] => .error .unreadable
  | some values =>
    let size : Nat := values.foldl (fun n d => base * n + d) 0
    let n : Int := size
    .ok (if negative then -n else n)

def withoutUnderscores (text : List Char) : List Char := text.filter (· ≠ '_')

def intOf (text : List Char) : Except Fault Int := do
  let text := withoutUnderscores text
  if text.isEmpty then throw .emptyNumber
  let (negative, digits) := Number.signOf text
  let n ← match digits with
    | [] => throw .emptyNumber
    | '0' :: 'b' :: rest => wholeIn 2 rest
    | '0' :: 'x' :: rest => wholeIn 16 rest
    | '0' :: _ => wholeIn 8 digits
    | _ =>
      let parts ← (Text.splitAt ':' digits).mapM (wholeIn 10)
      pure (parts.foldl (fun n p => 60 * n + p) 0)
  return if negative then -n else n

def decimalOf (text : List Char) : Except Fault Binary64 :=
  match Number.readDecimal? (String.ofList text) with
  | some x => .ok x
  | none => .error .unreadable

def sixties : Nat → List Binary64 → Binary64 → Binary64
  | _, [], sum => sum
  | base, x :: rest, sum => sixties (60 * base) rest (sum.add (x.mulNat base))

def floatOf (text : List Char) : Except Fault Binary64 := do
  let text := Text.lower (withoutUnderscores text)
  if text.isEmpty then throw .emptyNumber
  let (negative, digits) := Number.signOf text
  let x ← match String.ofList digits with
    | ".inf" => pure (Binary64.infinite false)
    | ".nan" => pure Binary64.undefined
    | _ =>
      match Text.splitAt ':' digits with
      | [one] => decimalOf one
      | parts => do return sixties 1 (← parts.mapM decimalOf).reverse (Binary64.zero false)
  return if negative then x.neg else x

def switchOf (text : List Char) : Except Fault Bool :=
  let word := String.ofList (Text.lower text)
  if ["yes", "true", "on"].contains word then .ok true
  else if ["no", "false", "off"].contains word then .ok false
  else .error .noSwitch

def zoneSeconds : Char × List Char × List Char → Int
  | (sign, hours, minutes) =>
    let n : Int := (Number.natOfDigits hours * 3600 + Number.natOfDigits minutes * 60 : Nat)
    if sign = '-' then -n else n

def stampClock (s : Stamp) (clock : List Char × List Char × List Char) : Clock :=
  let (hour, minute, second) := clock
  ⟨Number.natOfDigits hour, Number.natOfDigits minute, Number.natOfDigits second,
    microseconds s.fraction, s.zone.map zoneSeconds⟩

def stampOf (text : List Char) : Except Fault Value :=
  match stamp? text with
  | none => .error .noTimestamp
  | some s =>
    let d : Date := ⟨Number.natOfDigits s.year, Number.natOfDigits s.month, Number.natOfDigits s.day⟩
    if !d.isValid then .error .unreadable
    else match s.clock with
      | none => .ok (.date d)
      | some parts =>
        let t := stampClock s parts
        if t.isValid then .ok (.moment d t) else .error .unreadable

def bytesOf (text : List Char) : Except Fault (List UInt8) :=
  if text.any (128 ≤ ·.toNat) then .error .malformed
  else match decodeBytes 0 0 0 text with
    | some bs => .ok bs
    | none => .error .malformed

-- Kinds that no text has are refused.
def scalarValue (kind : Kind) (text : String) : Except Fault Value :=
  match kind with
  | .null => .ok .null
  | .bool => Value.bool <$> switchOf text.toList
  | .int => Value.int <$> intOf text.toList
  | .float => Value.float <$> floatOf text.toList
  | .timestamp => stampOf text.toList
  | .text => .ok (.text text)
  | .binary => Value.bytes <$> bytesOf text.toList
  | _ => .error .malformed

end DaoMapper.Yaml
