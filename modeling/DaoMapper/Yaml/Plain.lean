import DaoMapper.Yaml.Cursor

-- Scalars without quotes, on one line or on several.
namespace DaoMapper.Yaml

def isFlowMark (c : Char) : Bool :=
  c = ',' || c = '[' || c = ']' || c = '\x7b' || c = '\x7d'

def plainRun (inFlow : Bool) : List Char → List Char
  | [] => []
  | c :: rest =>
    let endsKey := c = ':' && rest.head?.all fun d => isGap d || (inFlow && isFlowMark d)
    let endsItem := inFlow && (c = '?' || isFlowMark c)
    if isGap c || endsKey || endsItem then [] else c :: plainRun inFlow rest

-- Nothing if the scalar cannot go on here; `crossed` tells whether a line ended.
structure Spacing where
  content : List Char
  crossed : Bool
  after : Cursor

def plainLinesFor : Nat → Cursor → Option (List Char) × Cursor
  | 0, c => (some [], c)
  | fuel + 1, c =>
    if c.looksAt (· = ' ') then plainLinesFor fuel c.next
    else match c.lineEnd? with
      | none => (some [], c)
      | some (e, c) =>
        if c.atDivision then (none, c)
        else let r := plainLinesFor fuel c; (r.1.map (e :: ·), r.2)

def plainGap (c : Cursor) : Spacing :=
  let spaces := c.ahead.takeWhile (· = ' ')
  let c := c.move spaces.length
  match c.lineEnd? with
  | none => ⟨spaces, false, c⟩
  | some (e, c) =>
    if c.atDivision then ⟨[], true, c⟩
    else match plainLinesFor (c.ahead.length + 1) c with
      | (none, c) => ⟨[], true, c⟩
      | (some more, c) => ⟨joinLines e more, true, c⟩

-- `least` is the column that further lines must reach outside of brackets.
def plainFor (inFlow : Bool) (least : Nat) : Nat → Spacing → List Char × Spacing
  | 0, before => ([], before)
  | fuel + 1, before =>
    let c := before.after
    let run := if c.looksAt (· = '#') then [] else plainRun inFlow c.ahead
    if run.isEmpty then ([], before)
    else
      let gap := plainGap (c.move run.length)
      if gap.content.isEmpty || (!inFlow && gap.after.column < least) then (before.content ++ run, gap)
      else let r := plainFor inFlow least fuel gap; (before.content ++ run ++ r.1, r.2)

def plain (inFlow : Bool) (least : Nat) (c : Cursor) : List Char × Spacing :=
  plainFor inFlow least (c.ahead.length + 1) ⟨[], false, c⟩

end DaoMapper.Yaml
