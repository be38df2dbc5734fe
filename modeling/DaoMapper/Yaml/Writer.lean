import DaoMapper.Yaml.Binary
import DaoMapper.Yaml.Kind
import DaoMapper.Yaml.Page

-- Values as documents, every collection in block form.
namespace DaoMapper.Yaml

-- A floating number keeps a point, as a number without one is no floating one.
def floatText (x : Number.Binary64) : String :=
  match x with
  | .undefined => ".nan"
  | .infinite negative => if negative then "-.inf" else ".inf"
  | _ =>
    let text := x.text.toList
    if text.contains '.' || !text.contains 'e' then x.text
    else String.ofList (text.takeWhile (· ≠ 'e') ++ '.' :: '0' :: text.dropWhile (· ≠ 'e'))

def scalarForm? : Value → Option (Kind × String)
  | .null => some (.null, "null")
  | .bool b => some (.bool, if b then "true" else "false")
  | .int n => some (.int, toString n)
  | .float x => some (.float, floatText x)
  | .text s => some (.text, s)
  | .bytes bs => some (.binary, String.ofList (encodedLines bs))
  | .date d => some (.timestamp, (Value.date d).plain)
  | .moment d t => some (.timestamp, (Value.moment d t).plain)
  | _ => none

def tagText (k : Kind) : String := "!!" ++ k.word

def keyLimit : Nat := 128

def isShortKey (v : Value) : Bool :=
  match v, scalarForm? v with
  | _, some (k, s) =>
    let looks := looksOf s.toList
    (tagText k).length + s.length < keyLimit && !looks.empty && !looks.manyLines
  | .list [], _ | .tuple [], _ | .map [], _ | .set [], _ => true
  | _, _ => false

namespace Page

-- The scalar's own text is indented further than the collection around it.
def textIndent : Option Nat → Nat
  | none => 2
  | some n => n + 2

def blockIndent : Option Nat → Nat
  | none => 0
  | some n => n + 2

-- A text whose kind shows neither by its looks nor by quotes needs a tag.
def scalar (p : Page) (around : Option Nat) (asKey : Bool) (kind : Kind) (s : String) : Page :=
  let text := s.toList
  let looks := looksOf text
  let readsBack := Kind.ofPlain text = kind
  let style := if kind = .binary then (if looks.allowsLiteral && !asKey then .literal else .double)
    else looks.style readsBack asKey
  let shows := if style = .plain then readsBack else kind = .text
  let p := if shows then p else p.mark (tagText kind) true false
  let indent := textIndent around
  match style with
  | .plain => p.plain indent (!asKey) text
  | .single => p.single indent (!asKey) text
  | .double => p.double indent (!asKey) text
  | .literal => p.literal indent text

-- A sequence under a key is not indented, and a short key stays on its line.
inductive Spot where
  | alone
  | item
  | value
  | key
  deriving DecidableEq, Repr

def sequenceIndent (p : Page) (around : Option Nat) (spot : Spot) : Nat :=
  match around with
  | some n => if spot = .value && !p.fresh then n else n + 2
  | none => 0

def openKey (p : Page) (indent : Nat) (short : Bool) : Page :=
  let p := p.newLine indent
  if short then p else p.mark "?" true true

def closeKey (p : Page) (indent : Nat) (short : Bool) : Page :=
  if short then p.mark ":" false false else (p.newLine indent).mark ":" true true

def keySpot (short : Bool) : Spot := if short then .key else .value

def leaf (p : Page) (around : Option Nat) (spot : Spot) (v : Value) : Option Page :=
  (scalarForm? v).map fun f => p.scalar around (spot = .key) f.1 f.2

-- Nothing where a value has no written form.
mutual

def node (p : Page) (around : Option Nat) (spot : Spot) : Value → Option Page
  | .list items | .tuple items =>
    if items.isEmpty then some (p.mark "[]" true false) else p.items (p.sequenceIndent around spot) items
  | .map entries =>
    if entries.isEmpty then some (p.mark "\x7b\x7d" true false) else p.entries (blockIndent around) entries
  | .set members =>
    let p := p.mark (tagText .set) true false
    if members.isEmpty then some (p.mark "\x7b\x7d" true false) else p.members (blockIndent around) members
  | v => p.leaf around spot v

def items (p : Page) (indent : Nat) : List Value → Option Page
  | [] => some p
  | v :: rest => do
    let p ← ((p.newLine indent).mark "-" true true).node (some indent) .item v
    p.items indent rest

def entries (p : Page) (indent : Nat) : List (Value × Value) → Option Page
  | [] => some p
  | (k, v) :: rest => do
    let short := isShortKey k
    let p ← (p.openKey indent short).node (some indent) (keySpot short) k
    let p ← (p.closeKey indent short).node (some indent) .value v
    p.entries indent rest

def members (p : Page) (indent : Nat) : List Value → Option Page
  | [] => some p
  | k :: rest => do
    let short := isShortKey k
    let p ← (p.openKey indent short).node (some indent) (keySpot short) k
    let p ← (p.closeKey indent short).leaf (some indent) .value .null
    p.members indent rest

end

end Page

def write? (v : Value) : Option String :=
  (Page.start.node none .alone v).map fun p => (p.newLine 0).text

end DaoMapper.Yaml
