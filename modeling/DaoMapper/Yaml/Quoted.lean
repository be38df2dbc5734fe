import DaoMapper.Yaml.Cursor

-- Quoted scalars of both kinds.
namespace DaoMapper.Yaml

def shortEscape? : Char → Option Char
  | '0' => some '\x00'
  | 'a' => some '\x07'
  | 'b' => some '\x08'
  | 't' | '\t' => some '\t'
  | 'n' => some '\n'
  | 'v' => some '\x0b'
  | 'f' => some '\x0c'
  | 'r' => some '\x0d'
  | 'e' => some '\x1b'
  | ' ' => some ' '
  | '\x22' => some '\x22'
  | '/' => some '/'
  | '\\' => some '\\'
  | 'N' => some '\x85'
  | '_' => some '\xa0'
  | 'L' => some '\u2028'
  | 'P' => some '\u2029'
  | _ => none

def codeLength? : Char → Option Nat
  | 'x' => some 2
  | 'u' => some 4
  | 'U' => some 8
  | _ => none

def hexValue? (c : Char) : Option Nat :=
  if '0' ≤ c && c ≤ '9' then some (c.toNat - 48)
  else if 'a' ≤ c && c ≤ 'f' then some (c.toNat - 87)
  else if 'A' ≤ c && c ≤ 'F' then some (c.toNat - 55)
  else none

def hexNumber? (count : Nat) (text : List Char) : Option Nat :=
  if text.length < count then none
  else ((text.take count).mapM hexValue?).map fun values => values.foldl (fun n d => 16 * n + d) 0

def emptyLinesFor : Nat → Cursor → Except Fault (List Char × Cursor)
  | 0, c => .ok ([], c)
  | fuel + 1, c =>
    if c.atDivision then .error .malformed
    else
      let c := c.skip isBlank
      match c.lineEnd? with
      | none => .ok ([], c)
      | some (e, c) => (emptyLinesFor fuel c).map fun r => (e :: r.1, r.2)

def emptyLines (c : Cursor) : Except Fault (List Char × Cursor) := emptyLinesFor (c.ahead.length + 1) c

def quotedGap (c : Cursor) : Except Fault (List Char × Cursor) :=
  let blanks := c.ahead.takeWhile isBlank
  let c := c.move blanks.length
  match c.lineEnd? with
  | none => .ok (blanks, c)
  | some (e, c) => (emptyLines c).map fun r => (joinLines e r.1, r.2)

-- At the end of a line a backslash takes the line end away.
def quotedEscape (c : Cursor) : Except Fault (List Char × Cursor) :=
  match c.ahead with
  | [] => .error .malformed
  | e :: rest =>
    match shortEscape? e, codeLength? e with
    | some ch, _ => .ok ([ch], c.next)
    | none, some count =>
      match hexNumber? count rest with
      | none => .error .malformed
      | some n => if 0x10ffff < n then .error .unreadable else .ok ([Char.ofNat n], c.move (count + 1))
    | none, none => if isBreak e then emptyLines c.next else .error .malformed

inductive Piece where
  | closing
  | content (characters : List Char)

def quotedPiece (double : Bool) (c : Cursor) : Except Fault (Piece × Cursor) :=
  match c.ahead with
  | [] => .error .malformed
  | ch :: rest =>
    if isGap ch then (quotedGap c).map fun r => (.content r.1, r.2)
    else if double then
      if ch = '\x22' then .ok (.closing, c.next)
      else if ch = '\\' then (quotedEscape c.next).map fun r => (.content r.1, r.2)
      else .ok (.content [ch], c.next)
    else if ch = '\x27' then
      if rest.head? = some '\x27' then .ok (.content ['\x27'], c.move 2) else .ok (.closing, c.next)
    else .ok (.content [ch], c.next)

def quotedFor (double : Bool) : Nat → Cursor → Except Fault (List Char × Cursor)
  | 0, _ => .error .malformed
  | fuel + 1, c => do
    match ← quotedPiece double c with
    | (.closing, c) => return ([], c)
    | (.content cs, c) =>
      let (more, c) ← quotedFor double fuel c
      return (cs ++ more, c)

def quoted (double : Bool) (c : Cursor) : Except Fault (List Char × Cursor) :=
  quotedFor double (c.ahead.length + 1) c.next

end DaoMapper.Yaml
