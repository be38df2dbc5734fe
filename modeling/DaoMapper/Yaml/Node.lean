import DaoMapper.Yaml.Kind
import DaoMapper.Yaml.Token

-- The tree that a document's tokens spell, each node with its kind.
namespace DaoMapper.Yaml

inductive Node where
  | scalar (kind : Kind) (text : String)
  | sequence (kind : Kind) (items : List Node)
  | mapping (kind : Kind) (entries : List (Node × Node))
  deriving Repr

namespace Node

def absent : Node := .scalar .null ""

-- What is still to be read, why there is no more, the nodes that have names so far,
-- and what the handles of tags stand for.
structure Reading where
  tokens : List Token
  ending : Option Fault
  anchors : List (String × Option Node)
  handles : List (String × String)

abbrev Compose := StateT Reading (Except Fault)

-- A fault behind the tokens counts once it is reached.
def peek : Compose (Option Token) := do
  match (← get).tokens, (← get).ending with
  | t :: _, _ => return some t
  | [], some f => throw f
  | [], none => return none

def advance : Compose Unit := modify fun r => { r with tokens := r.tokens.tail }

def nextIn (candidates : List Token) : Compose Bool := do
  return (← peek).any candidates.contains

def found (t : Token) : Compose Bool := do
  if (← peek) = some t then
    advance
    return true
  else return false

def expect (t : Token) : Compose Unit := do
  if !(← found t) then throw .malformed

def namedNode (name : String) : Compose Node := do
  match (← get).anchors.find? (·.1 == name) with
  | some (_, some n) => return n
  | some (_, none) => throw .endless
  | none => throw .malformed

def checkNew (name : Option String) : Compose Unit := do
  if (← get).anchors.any fun a => some a.1 == name then throw .malformed

def define (name : Option String) (n : Option Node) : Compose Unit :=
  match name with
  | some s => modify fun r => { r with anchors := (s, n) :: r.anchors }
  | none => pure ()

def anchorIfAny : Compose (Option String) := do
  match ← peek with
  | some (.anchor name) =>
    advance
    return some name
  | _ => return none

def tagIfAny : Compose (Option TagName) := do
  match ← peek with
  | some (.tag name) =>
    advance
    return some name
  | _ => return none

def properties : Compose (Option String × Option TagName) := do
  match ← anchorIfAny with
  | some name => return (some name, ← tagIfAny)
  | none =>
    let tag ← tagIfAny
    return (← if tag.isSome then anchorIfAny else pure none, tag)

def fullTag (name : TagName) : Compose String := do
  match name.handle with
  | none => return name.suffix
  | some h =>
    match (← get).handles.find? (·.1 == h) with
    | some (_, address) => return address ++ name.suffix
    | none => throw .malformed

-- A lone exclamation mark makes a quoted text count as a plain one.
def scalarKind (tag : Option String) (isPlain : Bool) (text : String) : Kind :=
  match tag with
  | none => if isPlain then .ofPlain text.toList else .text
  | some "!" => .ofPlain text.toList
  | some t => .ofTag t

def collectionKind (usual : Kind) (tag : Option String) : Kind :=
  match tag with
  | none | some "!" => usual
  | some t => .ofTag t

-- A collection under its name, which what the collection holds may not mention.
def collection {α : Type} (name : Option String) (make : List α → Node) (content : Compose (List α)) :
    Compose Node := do
  define name none
  let n := make (← content)
  define name n
  return n

mutual

-- Items of a sequence no deeper than the mapping around it need no mark of their own.
def read : Nat → Bool → Bool → Compose Node
  | 0, _, _ => throw .malformed
  | fuel + 1, inBlock, indentless => do
    match ← peek with
    | some (.alias name) =>
      advance
      namedNode name
    | _ =>
      let (anchor, tag) ← properties
      let tag ← tag.mapM fullTag
      checkNew anchor
      let sequence := Node.sequence (collectionKind .sequence tag)
      let mapping := Node.mapping (collectionKind .mapping tag)
      match (← peek), inBlock with
      | some (.scalar isPlain text), _ =>
        advance
        let n := Node.scalar (scalarKind tag isPlain text) text
        define anchor n
        return n
      | some .flowSequence, _ =>
        advance
        collection anchor sequence (flowItems fuel true)
      | some .flowMapping, _ =>
        advance
        collection anchor mapping (flowEntries fuel true)
      | some .blockSequence, true =>
        advance
        collection anchor sequence (blockItems fuel)
      | some .blockMapping, true =>
        advance
        collection anchor mapping (blockEntries fuel)
      | next, _ =>
        if indentless && next = some .item then collection anchor sequence (indentlessItems fuel)
        else if anchor.isSome || tag.isSome then
          let n := Node.scalar (scalarKind tag true "") ""
          define anchor n
          return n
        else throw .malformed

def readUnless : Nat → List Token → Bool → Bool → Compose Node
  | 0, _, _, _ => throw .malformed
  | fuel + 1, ends, inBlock, indentless => do
    if ← nextIn ends then return absent else read fuel inBlock indentless

def blockItems : Nat → Compose (List Node)
  | 0 => throw .malformed
  | fuel + 1 => do
    if ← found .item then
      let n ← readUnless fuel [.item, .blockEnd] true false
      return n :: (← blockItems fuel)
    else
      expect .blockEnd
      return []

def indentlessItems : Nat → Compose (List Node)
  | 0 => throw .malformed
  | fuel + 1 => do
    if ← found .item then
      let n ← readUnless fuel [.item, .key, .value, .blockEnd] true false
      return n :: (← indentlessItems fuel)
    else return []

def blockEntries : Nat → Compose (List (Node × Node))
  | 0 => throw .malformed
  | fuel + 1 => do
    if ← found .key then
      let ends := [.key, .value, .blockEnd]
      let k ← readUnless fuel ends true true
      let v ← if ← found .value then readUnless fuel ends true true else pure absent
      return (k, v) :: (← blockEntries fuel)
    else
      expect .blockEnd
      return []

def flowPair : Nat → Token → Compose (Node × Node)
  | 0, _ => throw .malformed
  | fuel + 1, closing => do
    let k ← readUnless fuel [.value, .comma, closing] false false
    let v ← if ← found .value then readUnless fuel [.comma, closing] false false else pure absent
    return (k, v)

-- Items up to the closing bracket. A pair among them is a mapping of its own.
def flowItems : Nat → Bool → Compose (List Node)
  | 0, _ => throw .malformed
  | fuel + 1, first => do
    if ← found .flowSequenceEnd then return []
    if !first then expect .comma
    if ← found .key then
      let pair ← flowPair fuel .flowSequenceEnd
      return .mapping .mapping [pair] :: (← flowItems fuel false)
    else if ← found .flowSequenceEnd then return []
    else
      let n ← read fuel false false
      return n :: (← flowItems fuel false)

def flowEntries : Nat → Bool → Compose (List (Node × Node))
  | 0, _ => throw .malformed
  | fuel + 1, first => do
    if ← found .flowMappingEnd then return []
    if !first then expect .comma
    if ← found .key then
      let pair ← flowPair fuel .flowMappingEnd
      return pair :: (← flowEntries fuel false)
    else if ← found .flowMappingEnd then return []
    else
      let k ← read fuel false false
      return (k, absent) :: (← flowEntries fuel false)

end

def usualHandles : List (String × String) := [("!", "!"), ("!!", tagAddress)]

def directivesFor : Nat → Bool → Compose Unit
  | 0, _ => throw .malformed
  | fuel + 1, versioned => do
    match ← peek with
    | some (.directive (.version major)) =>
      if versioned || major ≠ 1 then throw .malformed
      advance
      directivesFor fuel true
    | some (.directive (.handle name address)) =>
      if (← get).handles.any (·.1 == name) then throw .malformed
      modify fun r => { r with handles := r.handles ++ [(name, address)] }
      advance
      directivesFor fuel versioned
    | some (.directive .other) =>
      advance
      directivesFor fuel versioned
    | _ => modify fun r => { r with handles := r.handles ++ usualHandles }

def isBoundary : Option Token → Bool
  | none | some (.directive _) | some .documentStart | some .documentEnd => true
  | _ => false

def document (size : Nat) : Compose (Option Node) := do
  let first ← peek
  if first.isNone then return none
  else
    let explicit := match first with
      | some (.directive _) | some .documentStart => true
      | _ => false
    if explicit then
      directivesFor size false
      expect .documentStart
    else modify fun r => { r with handles := usualHandles }
    let n ← if explicit && isBoundary (← peek) then pure absent else read (4 * size) true false
    modify fun r => { r with tokens := r.tokens.dropWhile (· = .documentEnd) }
    if (← peek).isSome then throw .malformed else return some n

-- Each level of a node takes a token, and no more than four steps.
def ofTokens (tokens : List Token) (ending : Option Fault) : Except Fault (Option Node) :=
  (document (tokens.length + 1) ⟨tokens, ending, [], []⟩).map (·.1)

end Node

end DaoMapper.Yaml
