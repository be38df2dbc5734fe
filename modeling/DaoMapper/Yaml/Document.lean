import DaoMapper.Yaml.Node
import DaoMapper.Yaml.Scalar

-- What documents mean.
namespace DaoMapper.Yaml

-- A fault and how deep in the document it lies. Levels are worked off one after
-- the other, so of two faults the less deep one is met first.
structure Found where
  depth : Nat
  fault : Fault

abbrev Result (α : Type) := Except Found α

def earliest {α β : Type} (a : Result α) (b : Result β) : Result (α × β) :=
  match a, b with
  | .ok x, .ok y => .ok (x, y)
  | .error d, .error e => .error (if e.depth < d.depth then e else d)
  | .error d, .ok _ => .error d
  | .ok _, .error e => .error e

def all {α : Type} : List (Result α) → Result (List α)
  | [] => .ok []
  | r :: rest => (earliest r (all rest)).map fun p => p.1 :: p.2

namespace Node

def kind : Node → Kind
  | scalar k _ | sequence k _ | mapping k _ => k

mutual

def text? : Node → Option String
  | scalar _ s => some s
  | sequence _ _ => none
  | mapping _ entries => defaultText? entries

def defaultText? : List (Node × Node) → Option String
  | [] => none
  | (k, v) :: rest => if k.kind = .value then v.text? else defaultText? rest

end

def isScalar : Node → Bool
  | scalar .. => true
  | _ => false

def scalarOf (depth : Nat) (n : Node) : Result Value :=
  match n.text? with
  | none => .error ⟨depth, .malformed⟩
  | some s =>
    if n.kind = .timestamp && !n.isScalar && (stamp? s.toList).isNone then .error ⟨depth, .noText⟩
    else (scalarValue n.kind s).mapError (⟨depth, ·⟩)

-- A key of its own kind: the sign for the default entry is a plain text as a key.
def asKey : Node → Node
  | scalar .value s => scalar .text s
  | n => n

mutual

-- Entries that are taken over come first; of a list of such mappings the last does.
def flatEntries : List (Node × Node) → Except Fault (List (Node × Node) × List (Node × Node))
  | [] => .ok ([], [])
  | (k, v) :: rest =>
    if k.kind = .merge then do
      let taken ← merged v
      let (more, own) ← flatEntries rest
      return (taken ++ more, own)
    else do
      let (taken, own) ← flatEntries rest
      return (taken, (k.asKey, v) :: own)

def merged : Node → Except Fault (List (Node × Node))
  | mapping _ entries => (flatEntries entries).map fun r => r.1 ++ r.2
  | sequence _ items => mergedAll items
  | scalar .. => .error .malformed

def mergedAll : List Node → Except Fault (List (Node × Node))
  | [] => .ok []
  | mapping _ entries :: rest => do
    let (taken, own) ← flatEntries entries
    return (← mergedAll rest) ++ taken ++ own
  | _ :: _ => .error .malformed

end

def flat (entries : List (Node × Node)) : Except Fault (List (Node × Node)) :=
  (flatEntries entries).map fun r => r.1 ++ r.2

def isCollection (k : Kind) : Bool :=
  k = .sequence || k = .pairs || k = .ordered || k = .mapping || k = .set

def singleEntry? : Node → Option (Node × Node)
  | mapping _ [entry] => some entry
  | _ => none

def toSet (entries : List (Value × Value)) : Value :=
  .set ((entries.foldl (fun es e => Value.put es e.1 .null) []).map (·.1))

def toMap (entries : List (Value × Value)) : Value :=
  .map (entries.foldl (fun es e => Value.put es e.1 e.2) [])

mutual

def valueFor : Nat → Nat → Node → Result Value
  | 0, depth, _ => .error ⟨depth, .malformed⟩
  | fuel + 1, depth, n =>
    let below : Fault → Found := (⟨depth + 1, ·⟩)
    match n.kind with
    | .sequence =>
      match n with
      | sequence _ items => (all (items.map (valueFor fuel (depth + 1)))).map .list
      | _ => .error (below .malformed)
    | .pairs | .ordered =>
      match n with
      | sequence _ items => (all (items.map fun item =>
          match singleEntry? item with
          | some (k, v) => (earliest (valueFor fuel (depth + 1) k) (valueFor fuel (depth + 1) v)).map
              fun p => Value.tuple [p.1, p.2]
          | none => .error (below .malformed))).map .list
      | _ => .error (below .malformed)
    | .mapping => (entriesFor fuel (depth + 1) n).map toMap
    | .set => (entriesFor fuel (depth + 1) n).map toSet
    | .merge | .value | .other => .error ⟨depth, .malformed⟩
    | _ => scalarOf depth n

def entriesFor : Nat → Nat → Node → Result (List (Value × Value))
  | 0, depth, _ => .error ⟨depth, .malformed⟩
  | fuel + 1, depth, n =>
    match n with
    | mapping _ entries =>
      match flat entries with
      | .error f => .error ⟨depth, f⟩
      | .ok entries => all (entries.map fun (k, v) =>
          earliest (if isCollection k.kind then .error ⟨depth, .malformed⟩ else valueFor fuel depth k)
            (valueFor fuel depth v))
    | _ => .error ⟨depth, .malformed⟩

end

mutual

def height : Node → Nat
  | scalar _ _ => 0
  | sequence _ items => heightAll items + 1
  | mapping _ entries => heightEntries entries + 1

def heightAll : List Node → Nat
  | [] => 0
  | n :: rest => max n.height (heightAll rest)

def heightEntries : List (Node × Node) → Nat
  | [] => 0
  | (k, v) :: rest => max (max k.height v.height) (heightEntries rest)

end

-- Values take two steps a level, and flattening moves nothing down.
def value (n : Node) : Except Fault Value := (valueFor (2 * n.height + 1) 0 n).mapError (·.fault)

end Node

def isPrintable (c : Char) : Bool :=
  let n := c.toNat
  n = 9 || n = 10 || n = 13 || (32 ≤ n && n ≤ 126) || n = 133 || (160 ≤ n && n ≤ 0xfffd) || 0x10000 ≤ n

def sameLineEnds : List Char → List Char
  | '\x0d' :: '\n' :: rest => '\n' :: sameLineEnds rest
  | '\x0d' :: rest => '\n' :: sameLineEnds rest
  | c :: rest => c :: sameLineEnds rest
  | [] => []

def read (s : String) : Except Fault Value := do
  let text := sameLineEnds s.toList
  if !text.all isPrintable then throw .malformed
  let (all, ending) := tokens text
  match ← Node.ofTokens all ending with
  | none => return .null
  | some n => n.value

end DaoMapper.Yaml
