import DaoMapper.Yaml.Token

-- How a scalar is written so that it reads back as what it is.
namespace DaoMapper.Yaml

inductive Style where
  | plain
  | single
  | double
  | literal
  deriving DecidableEq, Repr

-- What matters about a text when it is written. `marked` tells that it starts or goes
-- on like something else than a scalar, `special` that it holds characters which are
-- only written as escapes, and the two about spaces that a line of it starts or ends
-- with one.
structure Looks where
  empty : Bool
  manyLines : Bool
  marked : Bool
  special : Bool
  edge : Bool
  endsInSpace : Bool
  breakThenSpace : Bool
  spaceThenBreak : Bool
  deriving Repr

def opensScalarMark (c : Char) : Bool := "#,[]\x7b\x7d&*!|>'\x22%@`".toList.contains c

def markedWithin : Bool → List Char → Bool
  | _, [] => false
  | afterGap, c :: rest =>
    (c = ':' && rest.head?.all isGap) || (c = '#' && afterGap) || markedWithin (isGap c) rest

def isMarked (text : List Char) : Bool :=
  match text with
  | [] => false
  | c :: rest =>
    "---".toList.isPrefixOf text || "...".toList.isPrefixOf text || opensScalarMark c ||
      ((c = '?' || c = ':' || c = '-') && rest.head?.all isGap) || markedWithin (isGap c) rest

def isAsciiText (c : Char) : Bool := c = '\n' || (32 ≤ c.toNat && c.toNat ≤ 126)

def adjacent (p q : Char → Bool) : List Char → Bool
  | a :: b :: rest => (p a && q b) || adjacent p q (b :: rest)
  | _ => false

def isSpace (c : Char) : Bool := c = ' '

def looksOf (text : List Char) : Looks where
  empty := text.isEmpty
  manyLines := text.any isBreak
  marked := isMarked text
  special := text.any (!isAsciiText ·)
  edge := text.head?.any isSpaceOrBreak || text.getLast?.any isSpaceOrBreak
  endsInSpace := text.getLast?.any isSpace
  breakThenSpace := adjacent isBreak isSpace text
  spaceThenBreak := adjacent isSpace isBreak text

namespace Looks

def allowsPlain (k : Looks) : Bool :=
  !(k.edge || k.breakThenSpace || k.spaceThenBreak || k.special || k.manyLines || k.marked)

def allowsSingle (k : Looks) : Bool := !(k.breakThenSpace || k.spaceThenBreak || k.special)

def allowsLiteral (k : Looks) : Bool := !(k.empty || k.endsInSpace || k.spaceThenBreak || k.special)

-- Without quotes if `readsBack` tells that it is taken for what it is.
def style (k : Looks) (readsBack asKey : Bool) : Style :=
  if readsBack && k.allowsPlain && !(asKey && (k.empty || k.manyLines)) then .plain
  else if k.allowsSingle && !(asKey && k.manyLines) then .single
  else .double

end Looks

end DaoMapper.Yaml
