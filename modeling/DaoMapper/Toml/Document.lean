import DaoMapper.Toml.Scalar
import DaoMapper.Toml.Table

-- Whole TOML documents.
namespace DaoMapper.Toml

def skipComment (text : List Char) : Option (List Char) :=
  match text with
  | '#' :: rest =>
    if (rest.takeWhile (· ≠ '\n')).any isControl then none else some (rest.dropWhile (· ≠ '\n'))
  | _ => some text

def skipGapFor : Nat → List Char → Option (List Char)
  | 0, text => some text
  | fuel + 1, text =>
    match text.dropWhile isBlankOrEnd with
    | '#' :: rest => (skipComment ('#' :: rest)).bind (skipGapFor fuel)
    | rest => some rest

def skipGap (text : List Char) : Option (List Char) := skipGapFor (text.length + 1) text

mutual

-- Every value inside another one is shorter, so the length of the text is fuel enough.
def valueFor : Nat → List Char → Read Value
  | 0, _ => none
  | fuel + 1, text =>
    match text with
    | [] => none
    | c :: rest =>
      if c = Text.doubleQuote || c = Text.apostrophe then
        (quotedText text).map fun r => (.text r.1, r.2)
      else if startsWith "true".toList text then some (.bool true, text.drop 4)
      else if startsWith "false".toList text then some (.bool false, text.drop 5)
      else if c = '[' then
        match skipGap rest with
        | none => none
        | some (']' :: left) => some (.list [], left)
        | some items => (itemsFor fuel items).map fun r => (.list r.1, r.2)
      else if c = '\x7b' then
        match skipBlanks rest with
        | '\x7d' :: left => some (.map [], left)
        | fields => (fieldsFor fuel [] fields).map fun r => (.map (entriesToValues r.1), r.2)
      else scalar text

def itemsFor : Nat → List Char → Read (List Value)
  | 0, _ => none
  | fuel + 1, text =>
    match valueFor fuel text with
    | none => none
    | some (v, rest) =>
      match skipGap rest with
      | some (']' :: left) => some ([v], left)
      | some (',' :: more) =>
        match skipGap more with
        | some (']' :: left) => some ([v], left)
        | some next => (itemsFor fuel next).map fun r => (v :: r.1, r.2)
        | none => none
      | _ => none

def fieldsFor : Nat → Entries → List Char → Read Entries
  | 0, _, _ => none
  | fuel + 1, entries, text =>
    match key text with
    | none => none
    | some (path, rest) =>
      match rest with
      | '=' :: more =>
        match valueFor fuel (skipBlanks more) with
        | none => none
        | some (v, rest) =>
          match assign [] path v entries with
          | none => none
          | some entries =>
            match skipBlanks rest with
            | '\x7d' :: left => some (entries, left)
            | ',' :: more => fieldsFor fuel entries (skipBlanks more)
            | _ => none
      | _ => none

end

def value (text : List Char) : Read Value := valueFor (text.length + 1) text

inductive Statement where
  | table (path : List String)
  | tables (path : List String)
  | field (path : List String) (v : Value)

def statement (text : List Char) : Read Statement :=
  match text with
  | '[' :: '[' :: rest =>
    match key (skipBlanks rest) with
    | some (path, ']' :: ']' :: left) => some (.tables path, left)
    | _ => none
  | '[' :: rest =>
    match key (skipBlanks rest) with
    | some (path, ']' :: left) => some (.table path, left)
    | _ => none
  | _ =>
    match key text with
    | some (path, '=' :: rest) => (value (skipBlanks rest)).map fun r => (.field path r.1, r.2)
    | _ => none

def lineEnd (text : List Char) : Option (List Char) :=
  match skipComment (skipBlanks text) with
  | some [] => some []
  | some ('\n' :: rest) => some rest
  | _ => none

def statementsFor : Nat → List Char → Option (List Statement)
  | 0, _ => none
  | fuel + 1, text =>
    match skipBlanks text with
    | [] => some []
    | '\n' :: rest => statementsFor fuel rest
    | '#' :: rest => (lineEnd ('#' :: rest)).bind (statementsFor fuel)
    | line => do
      let (s, rest) ← statement line
      let more ← statementsFor fuel (← lineEnd rest)
      return s :: more

-- `pending` are the tables that dotted keys of this section have made.
structure Builder where
  entries : Entries
  header : List String
  pending : List (List String)

def Builder.finishSection (b : Builder) : Builder :=
  { b with entries := b.pending.foldl (fun entries path => close path entries) b.entries, pending := [] }

def dottedTables (header path : List String) : List (List String) :=
  (List.range (path.length - 1)).map fun n => header ++ path.take (n + 1)

def Builder.add (b : Builder) : Statement → Option Builder
  | .table path =>
    let b := b.finishSection
    (openTable path b.entries).map fun entries => ⟨entries, path, []⟩
  | .tables path =>
    let b := b.finishSection
    (appendTable path b.entries).map fun entries => ⟨entries, path, []⟩
  | .field path v =>
    (assign b.header path v b.entries).map fun entries =>
      { b with entries, pending := b.pending ++ dottedTables b.header path }

def joinLineEnds : List Char → List Char
  | '\x0d' :: '\n' :: rest => '\n' :: joinLineEnds rest
  | c :: rest => c :: joinLineEnds rest
  | [] => []

def read? (s : String) : Option (List (Value × Value)) := do
  let text := joinLineEnds s.toList
  let statements ← statementsFor (text.length + 1) text
  let built ← statements.foldlM Builder.add ⟨[], [], []⟩
  return entriesToValues built.entries

end DaoMapper.Toml
