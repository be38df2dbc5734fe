import DaoMapper.Value

-- Places in a document: what lies ahead of them, and where they stand.
namespace DaoMapper.Yaml

-- Why a document has no value. All but the first are about a scalar of a kind that
-- its text does not fit: a number or a date that there is not, a number without
-- digits, a word for neither of two states, and a time in no known form or none at
-- all. A collection inside itself is `endless`.
inductive Fault where
  | malformed
  | endless
  | unreadable
  | emptyNumber
  | noSwitch
  | noTimestamp
  | noText
  deriving DecidableEq, Repr

def Fault.kind : Fault → String
  | malformed => "YAMLError"
  | endless => "RecursionError"
  | unreadable => "ValueError"
  | emptyNumber => "IndexError"
  | noSwitch => "KeyError"
  | noTimestamp => "AttributeError"
  | noText => "TypeError"

structure Cursor where
  ahead : List Char
  index : Nat
  line : Nat
  column : Nat
  deriving Repr

def isBlank (c : Char) : Bool := c = ' ' || c = '\t'

def isBreak (c : Char) : Bool := c = '\n' || c = '\x85' || c = '\u2028' || c = '\u2029'

def isGap (c : Char) : Bool := isBlank c || isBreak c

def isSpaceOrBreak (c : Char) : Bool := c = ' ' || isBreak c

-- A mark at the start of a document that says how it is encoded takes no column.
def byteOrderMark : Char := '\ufeff'

namespace Cursor

def start (text : List Char) : Cursor := ⟨text, 0, 0, 0⟩

def next (c : Cursor) : Cursor :=
  match c.ahead with
  | [] => c
  | ch :: rest =>
    if isBreak ch then ⟨rest, c.index + 1, c.line + 1, 0⟩
    else ⟨rest, c.index + 1, c.line, if ch = byteOrderMark then c.column else c.column + 1⟩

def move (c : Cursor) : Nat → Cursor
  | 0 => c
  | n + 1 => c.next.move n

def skip (c : Cursor) (p : Char → Bool) : Cursor := c.move (c.ahead.takeWhile p).length

def skipSpaces (c : Cursor) : Cursor := c.skip (· = ' ')

def toLineEnd (c : Cursor) : Cursor := c.skip (!isBreak ·)

def looksAt (c : Cursor) (p : Char → Bool) : Bool := c.ahead.head?.any p

def endsOr (c : Cursor) (p : Char → Bool) : Bool := c.ahead.head?.all p

def lineEnd? (c : Cursor) : Option (Char × Cursor) :=
  match c.ahead with
  | ch :: _ =>
    if ch = '\n' || ch = '\x85' then some ('\n', c.next)
    else if isBreak ch then some (ch, c.next)
    else none
  | [] => none

def passLineEnd (c : Cursor) : Cursor := if c.looksAt isBreak then c.next else c

def startsWith (c : Cursor) (piece : String) : Bool := piece.toList.isPrefixOf c.ahead

def atMark (c : Cursor) (mark : String) : Bool := c.startsWith mark && (c.ahead.drop 3).head?.all isGap

def atDivision (c : Cursor) : Bool := c.atMark "---" || c.atMark "..."

def passComment (c : Cursor) : Except Fault Cursor :=
  let c := c.skipSpaces
  let c := if c.looksAt (· = '#') then c.toLineEnd else c
  if c.endsOr isBreak then .ok c.passLineEnd else .error .malformed

end Cursor

-- A single line end counts as a space, and of several the first one does not count.
def joinLines (first : Char) (more : List Char) : List Char :=
  if first ≠ '\n' then first :: more else if more.isEmpty then [' '] else more

end DaoMapper.Yaml
