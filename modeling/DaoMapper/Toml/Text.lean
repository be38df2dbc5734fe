import DaoMapper.Number.Decimal
import DaoMapper.Text.Quoted

-- Texts and keys of TOML documents. Line ends are single line feeds here.
namespace DaoMapper.Toml

open Text (apostrophe doubleQuote)

abbrev Read (α : Type) := Option (Prod α (List Char))

def isBlank (c : Char) : Bool := c = ' ' || c = '\t'

def isBlankOrEnd (c : Char) : Bool := isBlank c || c = '\n'

def skipBlanks (text : List Char) : List Char := text.dropWhile isBlank

def isControl (c : Char) : Bool := (c.toNat < 32 && c ≠ '\t') || c.toNat = 127

def isForbidden (multiline : Bool) (c : Char) : Bool := isControl c && !(multiline && c = '\n')

def hexValue? (c : Char) : Option Nat :=
  if '0' ≤ c && c ≤ '9' then some (c.toNat - 48)
  else if 'a' ≤ c && c ≤ 'f' then some (c.toNat - 87)
  else if 'A' ≤ c && c ≤ 'F' then some (c.toNat - 55)
  else none

def codePoint? (digits : List Char) : Option Char := do
  let values ← digits.mapM hexValue?
  let n := values.foldl (fun n d => 16 * n + d) 0
  if n.isValidChar then some (Char.ofNat n) else none

def shortEscape? : Char → Option Char
  | 'b' => some '\x08'
  | 't' => some '\t'
  | 'n' => some '\n'
  | 'f' => some '\x0c'
  | 'r' => some '\x0d'
  | '\x22' => some '\x22'
  | '\\' => some '\\'
  | _ => none

def startsWith (piece text : List Char) : Bool := piece.isPrefixOf text

def triple (quote : Char) : List Char := [quote, quote, quote]

inductive Piece where
  | closing
  | content (characters : List Char)

-- At the end of a line it joins the line to what comes next.
def escape? (multiline : Bool) : List Char → Read Piece
  | 'u' :: rest => (codePoint? (rest.take 4)).bind fun c =>
    if rest.length < 4 then none else some (.content [c], rest.drop 4)
  | 'U' :: rest => (codePoint? (rest.take 8)).bind fun c =>
    if rest.length < 8 then none else some (.content [c], rest.drop 8)
  | e :: rest =>
    if multiline && isBlankOrEnd e then
      match skipBlanks (e :: rest) with
      | [] => some (.content [], [])
      | c :: more => if c = '\n' then some (.content [], more.dropWhile isBlankOrEnd) else none
    else (shortEscape? e).map fun c => (.content [c], rest)
  | [] => none

def piece? (multiline : Bool) : List Char → Read Piece
  | [] => none
  | c :: rest =>
    if c = doubleQuote then
      if !multiline then some (.closing, rest)
      else if startsWith (triple c) (c :: rest) then some (.closing, rest.drop 2)
      else some (.content [c], rest)
    else if c = '\\' then escape? multiline rest
    else if isForbidden multiline c then none
    else some (.content [c], rest)

-- Each piece takes a character, so the length of the text is fuel enough.
def piecesFor (multiline : Bool) : Nat → List Char → Read (List Char)
  | 0, _ => none
  | fuel + 1, text =>
    match piece? multiline text with
    | none => none
    | some (.closing, rest) => some ([], rest)
    | some (.content cs, rest) => (piecesFor multiline fuel rest).map fun r => (cs ++ r.1, r.2)

def basicBody (multiline : Bool) (text : List Char) : Read (List Char) :=
  piecesFor multiline (text.length + 1) text

def literalBody : List Char → Read (List Char)
  | [] => none
  | c :: rest =>
    if c = apostrophe then some ([], rest)
    else if isForbidden false c then none
    else (literalBody rest).map fun r => (c :: r.1, r.2)

def literalLines : List Char → Read (List Char)
  | [] => none
  | c :: rest =>
    if startsWith (triple apostrophe) (c :: rest) then some ([], rest.drop 2)
    else if isForbidden true c then none
    else (literalLines rest).map fun r => (c :: r.1, r.2)

-- Up to two quotes more belong to the text itself.
def takeQuotes (quote : Char) (read : List Char × List Char) : List Char × List Char :=
  let extra := (read.2.take 2).takeWhile (· = quote)
  (read.1 ++ extra, read.2.drop extra.length)

def dropFirstEnd (text : List Char) : List Char :=
  match text with
  | '\n' :: rest => rest
  | _ => text

def quotedText (text : List Char) : Read String :=
  let made (r : List Char × List Char) : String × List Char := (String.ofList r.1, r.2)
  if startsWith (triple doubleQuote) text then
    (basicBody true (dropFirstEnd (text.drop 3))).map (made ∘ takeQuotes doubleQuote)
  else if startsWith (triple apostrophe) text then
    (literalLines (dropFirstEnd (text.drop 3))).map (made ∘ takeQuotes apostrophe)
  else
    match text with
    | c :: rest =>
      if c = doubleQuote then (basicBody false rest).map made
      else if c = apostrophe then (literalBody rest).map made
      else none
    | [] => none

def isBareKeyChar (c : Char) : Bool := c.isAlphanum || c = '-' || c = '_'

def keyPart (text : List Char) : Read String :=
  match text with
  | [] => none
  | c :: rest =>
    if isBareKeyChar c then some (String.ofList (text.takeWhile isBareKeyChar), text.dropWhile isBareKeyChar)
    else if c = apostrophe then (literalBody rest).map fun r => (String.ofList r.1, r.2)
    else if c = doubleQuote then (basicBody false rest).map fun r => (String.ofList r.1, r.2)
    else none

def keyPartsFor : Nat → List Char → Read (List String)
  | 0, _ => none
  | fuel + 1, text =>
    match keyPart text with
    | none => none
    | some (part, rest) =>
      match skipBlanks rest with
      | '.' :: more => (keyPartsFor fuel (skipBlanks more)).map fun r => (part :: r.1, r.2)
      | left => some ([part], left)

def key (text : List Char) : Read (List String) := keyPartsFor (text.length + 1) text

end DaoMapper.Toml
