import DaoMapper.Text.Quoted
import DaoMapper.Yaml.Style

-- A document as it is being written, line by line.
namespace DaoMapper.Yaml

-- `reversed` holds what is written, last character first. `spaced` tells that a space
-- or a line end was written last, and `fresh` that the line holds nothing but
-- indentation and marks of block collections.
structure Page where
  reversed : List Char
  column : Nat
  spaced : Bool
  fresh : Bool

namespace Page

def width : Nat := 80

def start : Page := ⟨[], 0, true, true⟩

def text (p : Page) : String := String.ofList p.reversed.reverse

def add (p : Page) (piece : List Char) : Page :=
  { p with reversed := piece.reverse ++ p.reversed, column := p.column + piece.length }

def addBreak (p : Page) (c : Char) : Page := ⟨c :: p.reversed, 0, true, true⟩

def mark (p : Page) (piece : String) (apart : Bool) (opens : Bool) : Page :=
  let piece := if p.spaced || !apart then piece.toList else ' ' :: piece.toList
  { p.add piece with spaced := false, fresh := p.fresh && opens }

def newLine (p : Page) (indent : Nat) : Page :=
  let p := if !p.fresh || indent < p.column || (p.column = indent && !p.spaced) then p.addBreak '\n' else p
  if p.column < indent then { p.add (List.replicate (indent - p.column) ' ') with spaced := true } else p

def started (p : Page) : Page := { p with spaced := false, fresh := false }

def sameRun (a b : Char) : Bool :=
  (isSpace a && isSpace b) || (isBreak a && isBreak b) || !(isSpaceOrBreak a || isSpaceOrBreak b)

def runs : List Char → List (List Char)
  | [] => []
  | c :: rest =>
    match runs rest with
    | (d :: run) :: more => if sameRun c d then (c :: d :: run) :: more else [c] :: (d :: run) :: more
    | other => [c] :: other

-- A run of a text in a line that may be continued on the next one: a single space
-- turns into a line end once the line is full. Spaces at either end stay.
def flowRun (p : Page) (indent : Nat) (foldable : Bool) (run : List Char) : Page :=
  if run = [' '] && foldable && width < p.column then (p.newLine indent).started else p.add run

def plainFrom (p : Page) (indent : Nat) (split : Bool) : List (List Char) → Page
  | [] => p
  | run :: rest => (p.flowRun indent split run).plainFrom indent split rest

def plain (p : Page) (indent : Nat) (split : Bool) (text : List Char) : Page :=
  if text.isEmpty then p
  else
    let p := if p.spaced then p else p.add [' ']
    p.started.plainFrom indent split (runs text)

-- One more than there are, as one alone would read as a space.
def quotedBreaks (p : Page) (indent : Nat) (run : List Char) : Page :=
  let p := if run.head? = some '\n' then p.addBreak '\n' else p
  (run.foldl addBreak p).newLine indent

def doubled (run : List Char) : List Char :=
  run.flatMap fun c => if c = '\x27' then ['\x27', '\x27'] else [c]

def singleFrom (p : Page) (indent : Nat) (split first : Bool) : List (List Char) → Page
  | [] => p
  | run :: rest =>
    let p :=
      if run.head?.any isBreak then p.quotedBreaks indent run
      else if run = [' '] && split && !first && !rest.isEmpty && width < p.column then p.newLine indent
      else p.add (doubled run)
    p.singleFrom indent split false rest

def single (p : Page) (indent : Nat) (split : Bool) (text : List Char) : Page :=
  ((p.mark "'" true false).singleFrom indent split true (runs text)).mark "'" false false

def shortEscapeFor? : Char → Option Char
  | '\x00' => some '0'
  | '\x07' => some 'a'
  | '\x08' => some 'b'
  | '\t' => some 't'
  | '\n' => some 'n'
  | '\x0b' => some 'v'
  | '\x0c' => some 'f'
  | '\x0d' => some 'r'
  | '\x1b' => some 'e'
  | '\x22' => some '\x22'
  | '\\' => some '\\'
  | '\x85' => some 'N'
  | '\xa0' => some '_'
  | '\u2028' => some 'L'
  | '\u2029' => some 'P'
  | _ => none

def escapeFor (c : Char) : List Char :=
  let digits (count : Nat) : List Char := (Text.hex count c.toNat).map Char.toUpper
  match shortEscapeFor? c with
  | some e => ['\\', e]
  | none =>
    if c.toNat ≤ 0xff then '\\' :: 'x' :: digits 2
    else if c.toNat ≤ 0xffff then '\\' :: 'u' :: digits 4
    else '\\' :: 'U' :: digits 8

def standsBare (c : Char) : Bool := 32 ≤ c.toNat && c.toNat ≤ 126 && c ≠ '\x22' && c ≠ '\\'

def continueLine (p : Page) (indent : Nat) (next : Option Char) : Page :=
  let p := ((p.add ['\\']).newLine indent).started
  if next = some ' ' then p.add ['\\'] else p

-- Inside double quotes. `pending` are bare characters that are read and not written
-- yet, last one first. A full line ends before a space, before what follows an escape,
-- or behind an escape that goes past the end; the text does not end its first or its
-- last line that way.
def doubleFrom (p : Page) (indent : Nat) (split : Bool) (position : Nat) (pending : List Char) :
    List Char → Page
  | [] => p.add pending.reverse
  | c :: rest =>
    let inside := split && 0 < position && !rest.isEmpty
    if standsBare c then
      if inside && (c = ' ' || pending.isEmpty) && width < p.column + pending.length then
        ((p.add pending.reverse).continueLine indent (some c)).doubleFrom indent split (position + 1) [c] rest
      else p.doubleFrom indent split (position + 1) (c :: pending) rest
    else
      let p := (p.add pending.reverse).add (escapeFor c)
      let p := if inside && width + 1 < p.column then p.continueLine indent rest.head? else p
      p.doubleFrom indent split (position + 1) [] rest

def double (p : Page) (indent : Nat) (split : Bool) (text : List Char) : Page :=
  ((p.mark "\x22" true false).doubleFrom indent split 0 [] text).mark "\x22" false false

def literalFrom (p : Page) (indent : Nat) : List Char → Page
  | [] => p
  | c :: rest =>
    if isBreak c then (p.addBreak c).literalFrom indent rest
    else ((if p.column = 0 then p.newLine indent else p).add [c]).literalFrom indent rest

def literal (p : Page) (indent : Nat) (text : List Char) : Page :=
  ((p.mark "|" true false).addBreak '\n').literalFrom indent text

end Page

end DaoMapper.Yaml
