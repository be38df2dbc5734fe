import DaoMapper.Yaml.Block
import DaoMapper.Yaml.Plain
import DaoMapper.Yaml.Property

-- The marks and scalars of a document in order. Where indentation opens and closes
-- collections, marks are put in for it.
namespace DaoMapper.Yaml

inductive Token where
  | directive (d : Directive)
  | documentStart
  | documentEnd
  | blockSequence
  | blockMapping
  | blockEnd
  | flowSequence
  | flowSequenceEnd
  | flowMapping
  | flowMappingEnd
  | item
  | comma
  | key
  | value
  | alias (name : String)
  | anchor (name : String)
  | tag (name : TagName)
  | scalar (isPlain : Bool) (text : String)
  deriving DecidableEq, Repr

-- A place where a key may have started: whether it did shows at the colon behind
-- it. `position` counts the tokens before it; a key that is required stands where
-- its mapping goes on, so that a colon must come.
structure Candidate where
  depth : Nat
  position : Nat
  required : Bool
  index : Nat
  line : Nat
  column : Nat

-- `indents` are the columns of open block collections, innermost first.
structure Layout where
  cursor : Cursor
  tokens : Array Token
  indents : List Nat
  depth : Nat
  keyAllowed : Bool
  candidates : List Candidate

namespace Layout

def start (text : List Char) : Layout :=
  let c := Cursor.start text
  ⟨if c.looksAt (· = byteOrderMark) then c.next else c, #[], [], 0, true, []⟩

def inFlow (l : Layout) : Bool := l.depth ≠ 0

def least (l : Layout) : Nat :=
  match l.indents with
  | [] => 0
  | n :: _ => n + 1

def push (l : Layout) (t : Token) : Layout := { l with tokens := l.tokens.push t }

-- Spaces, comments and line ends; a new line outside of brackets may start a key.
def skipGapsFor : Nat → Layout → Layout
  | 0, l => l
  | fuel + 1, l =>
    let c := l.cursor.skipSpaces
    let c := if c.looksAt (· = '#') then c.toLineEnd else c
    match c.lineEnd? with
    | none => { l with cursor := c }
    | some (_, c) => skipGapsFor fuel { l with cursor := c, keyAllowed := l.keyAllowed || !l.inFlow }

-- A key stays on one line and is not longer than 1024 characters.
def dropStale (l : Layout) : Except Fault Layout :=
  let (stale, live) := l.candidates.partition fun k =>
    k.line ≠ l.cursor.line || 1024 < l.cursor.index - k.index
  if stale.any (·.required) then .error .malformed else .ok { l with candidates := live }

def unwind (column : Nat) (l : Layout) : Layout :=
  if l.inFlow then l
  else
    let ended := l.indents.takeWhile (column < ·)
    { l with
      indents := l.indents.drop ended.length
      tokens := l.tokens ++ (ended.map fun _ => Token.blockEnd).toArray }

def unwindAll (l : Layout) : Layout :=
  if l.inFlow then l
  else { l with indents := [], tokens := l.tokens ++ (l.indents.map fun _ => Token.blockEnd).toArray }

def indent (column : Nat) (opening : Token) (l : Layout) : Layout :=
  if l.least ≤ column then { l with indents := column :: l.indents, tokens := l.tokens.push opening } else l

def dropCandidate (l : Layout) : Except Fault Layout :=
  let (here, others) := l.candidates.partition (·.depth = l.depth)
  if here.any (·.required) then .error .malformed else .ok { l with candidates := others }

def markCandidate (l : Layout) : Except Fault Layout :=
  if !l.keyAllowed then .ok l
  else do
    let next ← l.dropCandidate
    let c := l.cursor
    let required := !l.inFlow && l.indents.head? = some c.column
    return { next with candidates := ⟨l.depth, l.tokens.size, required, c.index, c.line, c.column⟩ :: next.candidates }

def take (count : Nat) (t : Token) (l : Layout) : Layout :=
  { l with tokens := l.tokens.push t, cursor := l.cursor.move count }

def allowKey (allowed : Bool) (l : Layout) : Layout := { l with keyAllowed := allowed }

def openBracket (t : Token) (l : Layout) : Except Fault Layout := do
  let l ← l.markCandidate
  return ({ l with depth := l.depth + 1, keyAllowed := true }).take 1 t

def closeBracket (t : Token) (l : Layout) : Except Fault Layout := do
  let l ← l.dropCandidate
  if l.depth = 0 then .error .malformed
  else return ({ l with depth := l.depth - 1, keyAllowed := false }).take 1 t

def comma (l : Layout) : Except Fault Layout := do
  return (← l.dropCandidate).allowKey true |>.take 1 .comma

def blockMark (opening t : Token) (next : Bool) (l : Layout) : Except Fault Layout := do
  if !l.inFlow && !l.keyAllowed then .error .malformed
  else
    let l := if l.inFlow then l else l.indent l.cursor.column opening
    return (← l.dropCandidate).allowKey next |>.take 1 t

def keyBefore (k : Candidate) (l : Layout) : Layout :=
  let opens := !l.inFlow && l.least ≤ k.column
  let marks := if opens then #[.blockMapping, .key] else #[.key]
  { l with
    tokens := l.tokens.extract 0 k.position ++ marks ++ l.tokens.extract k.position l.tokens.size
    indents := if opens then k.column :: l.indents else l.indents
    candidates := l.candidates.filter (·.depth ≠ l.depth)
    keyAllowed := false }

def colon (l : Layout) : Except Fault Layout :=
  match l.candidates.find? (·.depth = l.depth) with
  | some k => .ok ((l.keyBefore k).take 1 .value)
  | none => l.blockMark .blockMapping .value !l.inFlow

def division (t : Token) (l : Layout) : Except Fault Layout := do
  return (← l.unwindAll.dropCandidate).allowKey false |>.take 3 t

def accept (t : Token) (allowed : Bool) (after : Cursor) (l : Layout) : Layout :=
  { l with tokens := l.tokens.push t, keyAllowed := allowed, cursor := after }

def readDirective (l : Layout) : Except Fault Layout := do
  let l ← l.unwindAll.dropCandidate
  let (d, after) ← directive l.cursor
  return l.accept (.directive d) false after

def readName (make : String → Token) (l : Layout) : Except Fault Layout := do
  let l ← l.markCandidate
  let (name, after) ← anchorName l.cursor
  return l.accept (make name) false after

def readTag (l : Layout) : Except Fault Layout := do
  let l ← l.markCandidate
  let (name, after) ← tagName l.cursor
  return l.accept (.tag name) false after

def readBlock (folded : Bool) (l : Layout) : Except Fault Layout := do
  let l ← l.dropCandidate
  let (text, after) ← block folded (max l.least 1) l.cursor.next
  return l.accept (.scalar false (String.ofList text)) true after

def readQuoted (double : Bool) (l : Layout) : Except Fault Layout := do
  let l ← l.markCandidate
  let (text, after) ← quoted double l.cursor
  return l.accept (.scalar false (String.ofList text)) false after

def readPlain (l : Layout) : Except Fault Layout := do
  let l ← l.markCandidate
  let (text, gap) := plain l.inFlow l.least l.cursor
  return l.accept (.scalar true (String.ofList text)) gap.crossed gap.after

def isMark (c : Char) : Bool := "-?:,[]\x7b\x7d#&*!|>'\x22%@`".toList.contains c

def startsPlain (inFlow : Bool) (c : Char) (rest : List Char) : Bool :=
  !(isGap c || isMark c) ||
    (!rest.head?.all isGap && (c = '-' || (!inFlow && (c = '?' || c = ':'))))

def step (l : Layout) : Except Fault (Option Layout) := do
  let l ← (skipGapsFor (l.cursor.ahead.length + 1) l).dropStale
  let l := l.unwind l.cursor.column
  match l.cursor.ahead with
  | [] => return none
  | c :: rest =>
    let alone := rest.head?.all isGap
    let flush := l.cursor.column = 0
    if flush && c = '%' then some <$> l.readDirective
    else if flush && l.cursor.atMark "---" then some <$> l.division .documentStart
    else if flush && l.cursor.atMark "..." then some <$> l.division .documentEnd
    else if c = '[' then some <$> l.openBracket .flowSequence
    else if c = '\x7b' then some <$> l.openBracket .flowMapping
    else if c = ']' then some <$> l.closeBracket .flowSequenceEnd
    else if c = '\x7d' then some <$> l.closeBracket .flowMappingEnd
    else if c = ',' then some <$> l.comma
    else if c = '-' && alone then some <$> l.blockMark .blockSequence .item true
    else if c = '?' && (l.inFlow || alone) then some <$> l.blockMark .blockMapping .key !l.inFlow
    else if c = ':' && (l.inFlow || alone) then some <$> l.colon
    else if c = '*' then some <$> l.readName .alias
    else if c = '&' then some <$> l.readName .anchor
    else if c = '!' then some <$> l.readTag
    else if c = '|' && !l.inFlow then some <$> l.readBlock false
    else if c = '>' && !l.inFlow then some <$> l.readBlock true
    else if c = '\x27' then some <$> l.readQuoted false
    else if c = '\x22' then some <$> l.readQuoted true
    else if startsPlain l.inFlow c rest then some <$> l.readPlain
    else .error .malformed

def runFor : Nat → Layout → Array Token × Option Fault
  | 0, l => (l.tokens, none)
  | fuel + 1, l =>
    match l.step with
    | .error f => (l.tokens, some f)
    | .ok (some next) => runFor fuel next
    | .ok none =>
      match (skipGapsFor (l.cursor.ahead.length + 1) l).dropStale >>= (·.unwindAll.dropCandidate) with
      | .ok l => (l.tokens, none)
      | .error f => (l.tokens, some f)

end Layout

-- Each step takes a character at least, so the length is fuel enough.
def tokens (text : List Char) : List Token × Option Fault :=
  let r := Layout.runFor (text.length + 1) (Layout.start text)
  (r.1.toList, r.2)

end DaoMapper.Yaml
