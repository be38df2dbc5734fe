import DaoMapper.Yaml.Cursor

-- Scalars that are set off by their indentation.
namespace DaoMapper.Yaml

inductive Chomping where
  | clip
  | strip
  | keep
  deriving DecidableEq, Repr

structure BlockHeader where
  chomping : Chomping
  increment : Option Nat

def chomping? (c : Cursor) : Option (Chomping × Cursor) :=
  match c.ahead with
  | '+' :: _ => some (.keep, c.next)
  | '-' :: _ => some (.strip, c.next)
  | _ => none

def increment? (c : Cursor) : Option (Nat × Cursor) :=
  match c.ahead with
  | d :: _ => if '0' ≤ d && d ≤ '9' then some (d.toNat - 48, c.next) else none
  | [] => none

def headerParts (c : Cursor) : BlockHeader × Cursor :=
  match chomping? c with
  | some (k, c) =>
    match increment? c with
    | some (n, c) => (⟨k, some n⟩, c)
    | none => (⟨k, none⟩, c)
  | none =>
    match increment? c with
    | some (n, c) =>
      match chomping? c with
      | some (k, c) => (⟨k, some n⟩, c)
      | none => (⟨.clip, some n⟩, c)
    | none => (⟨.clip, none⟩, c)

def blockHeader (c : Cursor) : Except Fault (BlockHeader × Cursor) := do
  let (header, c) := headerParts c
  if header.increment = some 0 || !c.endsOr isSpaceOrBreak then .error .malformed
  else return (header, ← c.passComment)

def blockHeadFor : Nat → Cursor → List Char × Nat × Cursor
  | 0, c => ([], 0, c)
  | fuel + 1, c =>
    if c.looksAt (· = ' ') then
      let (breaks, deepest, after) := blockHeadFor fuel c.next
      (breaks, max c.next.column deepest, after)
    else match c.lineEnd? with
      | some (e, c) => let (breaks, deepest, after) := blockHeadFor fuel c; (e :: breaks, deepest, after)
      | none => ([], 0, c)

def toIndent (indent : Nat) (c : Cursor) : Cursor :=
  c.move ((c.ahead.take (indent - c.column)).takeWhile (· = ' ')).length

def blockBreaksFor (indent : Nat) : Nat → Cursor → List Char × Cursor
  | 0, c => ([], c)
  | fuel + 1, c =>
    let c := toIndent indent c
    match c.lineEnd? with
    | some (e, c) => let r := blockBreaksFor indent fuel c; (e :: r.1, r.2)
    | none => ([], c)

def blockBreaks (indent : Nat) (c : Cursor) : List Char × Cursor :=
  blockBreaksFor indent (c.ahead.length + 1) c

-- Lines that fold both start at the indentation with something else than a blank.
def blockJoint (folded : Bool) (flush : Bool) (ending : List Char) (breaks : List Char) (c : Cursor) :
    List Char :=
  if folded && ending = ['\n'] && flush && !c.looksAt isBlank then
    if breaks.isEmpty then [' '] else []
  else ending

-- At last come the line end and the empty lines that the chomping is about.
def blockLinesFor (folded : Bool) (indent : Nat) :
    Nat → List Char → List Char → Cursor → List Char × List Char × List Char × Cursor
  | 0, ending, breaks, c => ([], ending, breaks, c)
  | fuel + 1, ending, breaks, c =>
    if c.column ≠ indent || c.ahead.isEmpty then ([], ending, breaks, c)
    else
      let line := c.ahead.takeWhile (!isBreak ·)
      let flush := !c.looksAt isBlank
      let atEnd := c.move line.length
      let (lineEnding, start) := match atEnd.lineEnd? with
        | some (e, c) => ([e], c)
        | none => ([], atEnd)
      let (more, next) := blockBreaks indent start
      let goesOn := next.column = indent && !next.ahead.isEmpty
      let joint := if goesOn then blockJoint folded flush lineEnding more next else []
      let (rest, last, trailing, after) := blockLinesFor folded indent fuel lineEnding more next
      (breaks ++ line ++ joint ++ rest, last, trailing, after)

def chomped (chomping : Chomping) (body last trailing : List Char) : List Char :=
  match chomping with
  | .strip => body
  | .clip => body ++ last
  | .keep => body ++ last ++ trailing

-- `least` is the smallest indentation that the lines may have.
def block (folded : Bool) (least : Nat) (c : Cursor) : Except Fault (List Char × Cursor) := do
  let (header, c) ← blockHeader c
  let fuel := c.ahead.length + 1
  let (indent, breaks, c) := match header.increment with
    | some n => let indent := least + n - 1; let r := blockBreaks indent c; (indent, r.1, r.2)
    | none => let (breaks, deepest, after) := blockHeadFor fuel c; (max least deepest, breaks, after)
  let (body, last, trailing, c) := blockLinesFor folded indent fuel [] breaks c
  return (chomped header.chomping body last trailing, c)

end DaoMapper.Yaml
