import DaoMapper.Json

-- JSON values as texts, all on one line and in ASCII.
namespace DaoMapper.Json

def unitEscape (n : Nat) : List Char := '\\' :: 'u' :: Text.hex 4 n

def quoteChar (c : Char) : List Char :=
  let n := c.toNat
  if c = '\x22' || c = '\\' then ['\\', c]
  else if c = '\n' then ['\\', 'n']
  else if c = '\t' then ['\\', 't']
  else if c = '\x0d' then ['\\', 'r']
  else if 32 ≤ n && n < 127 then [c]
  else if n < 0x10000 then unitEscape n
  else unitEscape (0xd800 + (n - 0x10000) / 0x400) ++ unitEscape (0xdc00 + (n - 0x10000) % 0x400)

def quote (s : String) : String := String.ofList ('\x22' :: s.toList.flatMap quoteChar ++ ['\x22'])

mutual

def render : Json → String
  | null => "null"
  | bool b => if b then "true" else "false"
  | number t => t
  | text s => quote s
  | list js => "[" ++ ", ".intercalate (renderAll js) ++ "]"
  | object fs => "\x7b" ++ ", ".intercalate (renderFields fs) ++ "\x7d"

def renderAll : List Json → List String
  | [] => []
  | j :: rest => render j :: renderAll rest

def renderFields : List (String × Json) → List String
  | [] => []
  | (name, j) :: rest => (quote name ++ ": " ++ render j) :: renderFields rest

end

end DaoMapper.Json
