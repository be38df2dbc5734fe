import DaoMapper.Yaml.Quoted

-- Names of anchors, tags, and the directives ahead of a document.
namespace DaoMapper.Yaml

def isNameChar (c : Char) : Bool := c.isAlphanum || c = '-' || c = '_'

def mayFollowName (c : Char) : Bool := isGap c || "?:,]\x7d%@`".toList.contains c

def anchorName (c : Cursor) : Except Fault (String × Cursor) :=
  let name := c.next.ahead.takeWhile isNameChar
  let after := c.next.move name.length
  if name.isEmpty || !after.endsOr mayFollowName then .error .malformed
  else .ok (String.ofList name, after)

def isAddressChar (c : Char) : Bool := c.isAlphanum || "-;/?:@&=+$,_.!~*'()[]%".toList.contains c

def escapedBytes : List Char → Option (List UInt8 × List Char)
  | '%' :: a :: b :: rest => do
    let high ← hexValue? a
    let low ← hexValue? b
    let (more, left) ← escapedBytes rest
    return (UInt8.ofNat (16 * high + low) :: more, left)
  | '%' :: _ => none
  | text => some ([], text)

def addressFor : Nat → List Char → Option (List Char × Nat)
  | 0, _ => none
  | fuel + 1, text =>
    match text with
    | '%' :: _ => do
      let (bytes, left) ← escapedBytes text
      let decoded ← String.fromUTF8? bytes.toByteArray
      let (more, count) ← addressFor fuel left
      return (decoded.toList ++ more, text.length - left.length + count)
    | c :: rest =>
      if isAddressChar c then (addressFor fuel rest).map fun r => (c :: r.1, r.2 + 1) else some ([], 0)
    | [] => some ([], 0)

def address (c : Cursor) : Except Fault (String × Cursor) :=
  match addressFor (c.ahead.length + 1) c.ahead with
  | none | some ([], _) => .error .malformed
  | some (text, count) => .ok (String.ofList text, c.move count)

def tagHandle (c : Cursor) : Except Fault (String × Cursor) :=
  if !c.looksAt (· = '!') then .error .malformed
  else
    let rest := c.next.ahead
    if rest.head? = some ' ' then .ok ("!", c.next)
    else
      let name := rest.takeWhile isNameChar
      if (rest.drop name.length).head? = some '!' then
        .ok (String.ofList ('!' :: name ++ ['!']), c.move (name.length + 2))
      else .error .malformed

structure TagName where
  handle : Option String
  suffix : String
  deriving DecidableEq, Repr

def tagParts (c : Cursor) : Except Fault (TagName × Cursor) :=
  match c.next.ahead with
  | '<' :: _ => do
    let (suffix, after) ← address (c.move 2)
    if after.looksAt (· = '>') then return (⟨none, suffix⟩, after.next) else .error .malformed
  | ahead =>
    if ahead.head?.all isGap then .ok (⟨none, "!"⟩, c.next)
    else do
      let word := ahead.takeWhile (!isSpaceOrBreak ·)
      let (handle, after) ← if word.contains '!' then tagHandle c else .ok ("!", c.next)
      let (suffix, after) ← address after
      return (⟨some handle, suffix⟩, after)

def tagName (c : Cursor) : Except Fault (TagName × Cursor) := do
  let (name, after) ← tagParts c
  if after.endsOr isSpaceOrBreak then return (name, after) else .error .malformed

inductive Directive where
  | version (major : Nat)
  | handle (name address : String)
  | other
  deriving DecidableEq, Repr

def wholeNumber (c : Cursor) : Except Fault (Nat × Cursor) :=
  match c.ahead.takeWhile Number.isDigit with
  | [] => .error .malformed
  | digits => .ok (Number.natOfDigits digits, c.move digits.length)

def versionDirective (c : Cursor) : Except Fault (Directive × Cursor) := do
  let (major, c) ← wholeNumber c.skipSpaces
  if !c.looksAt (· = '.') then .error .malformed
  else
    let (_, c) ← wholeNumber c.next
    if c.endsOr isSpaceOrBreak then return (.version major, c) else .error .malformed

def handleDirective (c : Cursor) : Except Fault (Directive × Cursor) := do
  let (handle, c) ← tagHandle c.skipSpaces
  if !c.looksAt (· = ' ') then .error .malformed
  else
    let (uri, c) ← address c.skipSpaces
    if c.endsOr isSpaceOrBreak then return (.handle handle uri, c) else .error .malformed

def directive (c : Cursor) : Except Fault (Directive × Cursor) := do
  let name := c.next.ahead.takeWhile isNameChar
  let c := c.next.move name.length
  if name.isEmpty || !c.endsOr isSpaceOrBreak then .error .malformed
  else
    let (found, c) ← match String.ofList name with
      | "YAML" => versionDirective c
      | "TAG" => handleDirective c
      | _ => .ok (.other, c.toLineEnd)
    return (found, ← c.passComment)

end DaoMapper.Yaml
