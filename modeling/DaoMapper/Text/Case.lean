import DaoMapper.Text.CharClass
import DaoMapper.Text.Classes
import DaoMapper.Text.CaseTables

namespace DaoMapper.Text

def mapCase (expansions : List (Nat × List Nat)) (runs : List CaseRun) (c : Char) : List Char :=
  match expansions.find? (·.1 == c.toNat) with
  | some (_, codes) => codes.map Char.ofNat
  | none =>
    match runs.find? (·.covers c.toNat) with
    | some run => [Char.ofNat (run.move c.toNat)]
    | none => [c]

-- The tables agree with the ASCII rule below 128, which needs no search.
def lowerChar (c : Char) : List Char :=
  if c.toNat < 128 then [c.toLower] else mapCase lowerExpansions lowerRuns c

def upperChar (c : Char) : List Char :=
  if c.toNat < 128 then [c.toUpper] else mapCase upperExpansions upperRuns c

-- A capital sigma has its closing form after a cased letter and before none,
-- ignorable marks on either side not counting.
def closesWord (before after : List Char) : Bool :=
  ((before.dropWhile caseIgnorable.has).head?.any cased.has) &&
    !((after.dropWhile caseIgnorable.has).head?.any cased.has)

-- `before` holds what was read so far, nearest character first.
def lowerAfter (before : List Char) : List Char → List Char
  | [] => []
  | c :: rest =>
    (if c = 'Σ' then [if closesWord before rest then 'ς' else 'σ'] else lowerChar c) ++
      lowerAfter (c :: before) rest

def lower (text : List Char) : List Char := lowerAfter [] text

def upper (text : List Char) : List Char := text.flatMap upperChar

def lowerText (s : String) : String := String.ofList (lower s.toList)

def upperText (s : String) : String := String.ofList (upper s.toList)

def trim (text : List Char) : List Char :=
  ((text.dropWhile blank.has).reverse.dropWhile blank.has).reverse

end DaoMapper.Text
