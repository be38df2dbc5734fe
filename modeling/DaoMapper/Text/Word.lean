import DaoMapper.Text.Classes

-- Names: which texts are identifiers, and which of those are taken by the grammar
-- of the generated modules.
namespace DaoMapper.Text

-- Below 128 the classes are the ASCII ones, which need no search.
def isWordChar (c : Char) : Bool := if c.toNat < 128 then c.isAlphanum else wordChar.has c

def isDigitChar (c : Char) : Bool := if c.toNat < 128 then c.isDigit else digit.has c

def isNameStart (c : Char) : Bool :=
  if c.toNat < 128 then c.isAlpha || c == '_' else nameStart.has c

def isNameContinue (c : Char) : Bool :=
  if c.toNat < 128 then c.isAlphanum || c == '_' else nameContinue.has c

def isName : List Char → Bool
  | [] => false
  | c :: rest => isNameStart c && rest.all isNameContinue

def keywords : List String := [
  "False", "None", "True", "and", "as", "assert", "async", "await", "break", "class",
  "continue", "def", "del", "elif", "else", "except", "finally", "for", "from", "global",
  "if", "import", "in", "is", "lambda", "nonlocal", "not", "or", "pass", "raise", "return",
  "try", "while", "with", "yield"]

def isKeyword (name : List Char) : Bool := keywords.contains (String.ofList name)

def splitAt (separator : Char) : List Char → List (List Char)
  | [] => [[]]
  | c :: rest =>
    if c = separator then [] :: splitAt separator rest
    else match splitAt separator rest with
      | first :: more => (c :: first) :: more
      | [] => [[c]]

def joinWith (separator : Char) : List (List Char) → List Char
  | [] => []
  | [one] => one
  | one :: more => one ++ separator :: joinWith separator more

def occurs (piece : List Char) : List Char → Bool
  | [] => piece.isEmpty
  | c :: rest => piece.isPrefixOf (c :: rest) || occurs piece rest

def isLineEnd (c : Char) : Bool :=
  let n := c.toNat
  (10 ≤ n && n ≤ 13) || (28 ≤ n && n ≤ 30) || n = 133 || n = 0x2028 || n = 0x2029

-- A text in lines; what ends the last one is not followed by another.
def lines : List Char → List (List Char)
  | [] => []
  | '\x0d' :: '\n' :: rest => [] :: lines rest
  | c :: rest =>
    if isLineEnd c then [] :: lines rest
    else match lines rest with
      | first :: more => (c :: first) :: more
      | [] => [[c]]

end DaoMapper.Text
