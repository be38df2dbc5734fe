import DaoMapper.Log.Measure

-- Messages with places in braces that values are filled into.
namespace DaoMapper.Log

structure Supply where
  positions : Option (List Value)
  names : List (String × Value)

-- Places that take the values in turn do not go together with numbered ones.
inductive Numbering where
  | unset
  | inTurn (next : Nat)
  | byNumber
  deriving DecidableEq, Repr

namespace Template

def isBrace (c : Char) : Bool := c = '\x7b' || c = '\x7d'

structure Slot where
  name : List Char
  quoting : Option Char
  wish : List Char

def slotName (inBrackets : Bool) : List Char → Except FillFault (List Char × Char × List Char)
  | [] => .error .malformed
  | c :: rest =>
    let more (hidden : Bool) := (slotName hidden rest).map fun r => (c :: r.1, r.2)
    if inBrackets then more (c ≠ ']')
    else if c = '\x7b' then .error .malformed
    else if c = '\x7d' || c = ':' || c = '!' then .ok ([], c, rest)
    else more (c = '[')

def slotWish : Nat → List Char → Except FillFault (List Char × List Char)
  | _, [] => .error .malformed
  | depth, c :: rest =>
    if c = '\x7d' then
      match depth with
      | 0 => .ok ([], rest)
      | n + 1 => (slotWish n rest).map fun r => (c :: r.1, r.2)
    else (slotWish (if c = '\x7b' then depth + 1 else depth) rest).map fun r => (c :: r.1, r.2)

def slot (text : List Char) : Except FillFault (Slot × List Char) := do
  let (name, ending, rest) ← slotName false text
  match ending, rest with
  | '\x7d', _ => return (⟨name, none, []⟩, rest)
  | ':', _ => let (wish, rest) ← slotWish 0 rest; return (⟨name, none, wish⟩, rest)
  | _, q :: '\x7d' :: rest => return (⟨name, some q, []⟩, rest)
  | _, q :: ':' :: rest => let (wish, rest) ← slotWish 0 rest; return (⟨name, some q, wish⟩, rest)
  | _, _ => .error .malformed

def startsPart (c : Char) : Bool := c = '.' || c = '['

def index? (name : List Char) : Option Nat :=
  if !name.isEmpty && name.all Number.isDigit then some (Number.natOfDigits name) else none

def item (v : Value) (name : List Char) : Except FillFault Value :=
  match v, index? name with
  | .list vs, some n | .tuple vs, some n => (vs[n]?).elim (.error .noPosition) .ok
  | .text s, some n => (s.toList[n]?).elim (.error .noPosition) fun c => .ok (.text c.toString)
  | .map es, none => (Value.find? es (String.ofList name)).elim (.error .noName) .ok
  | .map _, some _ => .error .noName
  | _, _ => .error .unfit

def partsFor : Nat → Value → List Char → Except FillFault Value
  | 0, _, _ => .error .malformed
  | _, v, [] => .ok v
  | _, _, '.' :: rest =>
    if (rest.takeWhile (!startsPart ·)).isEmpty then .error .malformed else .error .noPart
  | fuel + 1, v, '[' :: rest =>
    let name := rest.takeWhile (· ≠ ']')
    match rest.dropWhile (· ≠ ']') with
    | _ :: more => if name.isEmpty then .error .malformed else do partsFor fuel (← item v name) more
    | [] => .error .malformed
  | _, _, _ => .error .malformed

def position (numbering : Numbering) (number : Option Nat) : Except FillFault (Nat × Numbering) :=
  match numbering, number with
  | .unset, none => .ok (0, .inTurn 1)
  | .inTurn n, none => .ok (n, .inTurn (n + 1))
  | .unset, some n | .byNumber, some n => .ok (n, .byNumber)
  | _, _ => .error .malformed

def root (s : Supply) (numbering : Numbering) (name : List Char) : Except FillFault (Value × Numbering) := do
  if name.isEmpty || (index? name).isSome then
    let (n, numbering) ← position numbering (index? name)
    match s.positions with
    | none => throw .malformed
    | some vs =>
      match vs[n]? with
      | some v => return (v, numbering)
      | none => throw .noPosition
  else match s.names.find? (·.1 == String.ofList name) with
    | some (_, v) => return (v, numbering)
    | none => throw .noName

def lookUp (s : Supply) (numbering : Numbering) (name : List Char) : Except FillFault (Value × Numbering) := do
  let first := name.takeWhile (!startsPart ·)
  let (v, numbering) ← root s numbering first
  return (← partsFor (name.length + 1) v (name.drop first.length), numbering)

def asciiOnly (text : List Char) : List Char :=
  text.flatMap fun c => if c.toNat < 128 then [c] else Text.numericEscape c.toNat

def quoted (v : Value) : Option Char → Except FillFault Value
  | none => .ok v
  | some 's' => .ok (.text v.plain)
  | some 'r' => .ok (.text v.shown)
  | some 'a' => .ok (.text (String.ofList (asciiOnly v.shown.toList)))
  | some _ => .error .malformed

mutual

-- How a value is laid out may itself hold places, but not any deeper.
def fillFor (s : Supply) : Nat → Bool → Numbering → List Char → Except FillFault (List Char × Numbering)
  | 0, _, numbering, _ => .ok ([], numbering)
  | fuel + 1, outer, numbering, text => do
    let before := text.takeWhile (!isBrace ·)
    match text.dropWhile (!isBrace ·) with
    | [] => return (before, numbering)
    | [_] => throw .malformed
    | c :: d :: rest =>
      if c = d then
        let (more, numbering) ← fillFor s fuel outer numbering rest
        return (before ++ c :: more, numbering)
      else if c = '\x7d' then throw .malformed
      else
        let (place, rest) ← slot (d :: rest)
        let (piece, numbering) ← placeFor s fuel outer numbering place
        let (more, numbering) ← fillFor s fuel outer numbering rest
        return (before ++ piece ++ more, numbering)

def placeFor (s : Supply) : Nat → Bool → Numbering → Slot → Except FillFault (List Char × Numbering)
  | 0, _, numbering, _ => .ok ([], numbering)
  | fuel + 1, outer, numbering, place => do
    let (v, numbering) ← lookUp s numbering place.name
    let v ← quoted v place.quoting
    if place.wish.contains '\x7b' then
      if !outer then throw .malformed
      let (wish, numbering) ← fillFor s fuel false numbering place.wish
      return (← Measure.apply wish v, numbering)
    else return (← Measure.apply place.wish v, numbering)

end

end Template

def fill (s : Supply) (message : String) : Except FillFault String :=
  let text := message.toList
  (Template.fillFor s (2 * text.length + 2) true .unset text).map fun r => String.ofList r.1

end DaoMapper.Log
