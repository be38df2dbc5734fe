import DaoMapper.Text.Classes

-- Text between quotation marks, as messages and generated code show it.
namespace DaoMapper.Text

def apostrophe : Char := '\x27'

def doubleQuote : Char := '\x22'

def printable (c : Char) : Bool :=
  if c.toNat < 127 then 32 ≤ c.toNat else !unprintable.has c

-- Apostrophes delimit, unless only double quotes spare an escape.
def quoteFor (text : List Char) : Char :=
  if text.contains apostrophe && !text.contains doubleQuote then doubleQuote else apostrophe

def hexDigit (n : Nat) : Char := if n < 10 then Char.ofNat (48 + n) else Char.ofNat (87 + n)

def hex : Nat → Nat → List Char
  | 0, _ => []
  | width + 1, n => hex width (n / 16) ++ [hexDigit (n % 16)]

def numericEscape (n : Nat) : List Char :=
  if n < 0x100 then '\\' :: 'x' :: hex 2 n
  else if n < 0x10000 then '\\' :: 'u' :: hex 4 n
  else '\\' :: 'U' :: hex 8 n

def escapeChar (c : Char) : List Char :=
  if c = '\\' then ['\\', '\\']
  else if c = '\n' then ['\\', 'n']
  else if c = '\r' then ['\\', 'r']
  else if c = '\t' then ['\\', 't']
  else if printable c then [c]
  else numericEscape c.toNat

def quoteChar (quote c : Char) : List Char := if c = quote then ['\\', c] else escapeChar c

def quoteBody (text : List Char) : List Char := text.flatMap (quoteChar (quoteFor text))

def quoted (s : String) : String :=
  let text := s.toList
  String.ofList (quoteFor text :: quoteBody text ++ [quoteFor text])

-- Bytes are quoted alike, all above ASCII by number.
def quotedBytes (bytes : List UInt8) : String :=
  let chars := bytes.map (fun b => Char.ofNat b.toNat)
  let quote := quoteFor chars
  let body := chars.flatMap fun c => if 127 ≤ c.toNat then numericEscape c.toNat else quoteChar quote c
  String.ofList ('b' :: quote :: body ++ [quote])

end DaoMapper.Text
