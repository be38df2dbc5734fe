import DaoMapper.Cli.Console

-- A console without colours: marks for styles are read and left out.
namespace DaoMapper.Cli.Terminal

inductive Piece where
  | plain (text : List Char)
  | mark (name : List Char)

def startsMark (c : Char) : Bool := ('a' ≤ c && c ≤ 'z') || c = '#' || c = '/' || c = '@'

-- `held` is what may become a mark, its last character first. A backslash keeps a bracket
-- from opening one.
def pieces (held : List Char) : List Char → List Piece
  | [] => [.plain held.reverse]
  | '\\' :: '[' :: rest => .plain (held.reverse ++ ['[']) :: pieces [] rest
  | '[' :: rest => .plain held.reverse :: pieces ['['] rest
  | c :: rest =>
    match held with
    | [] => .plain [c] :: pieces [] rest
    | [first] => if startsMark c then pieces [c, first] rest else .plain [first, c] :: pieces [] rest
    | _ => if c = ']' then .mark (held.reverse.drop 1) :: pieces [] rest else pieces (c :: held) rest

def trimmed (name : List Char) : List Char :=
  ((name.dropWhile (· = ' ')).reverse.dropWhile (· = ' ')).reverse

-- The latest style comes first, and only what is open can be closed.
def afterMark (styles : List (List Char)) (name : List Char) : Option (List (List Char)) :=
  match name.takeWhile (· ≠ '=') with
  | '/' :: closed =>
    if (trimmed closed).isEmpty then (if styles.isEmpty then none else some styles.tail)
    else if styles.contains (trimmed closed) then some (styles.erase (trimmed closed)) else none
  | opened => some (trimmed opened :: styles)

def render? (styles : List (List Char)) : List Piece → Option (List Char)
  | [] => some []
  | .plain text :: rest => (render? styles rest).map (text ++ ·)
  | .mark name :: rest => (afterMark styles name).bind fun styles => render? styles rest

def markup (s : String) : Except String String :=
  match render? [] (pieces [] s.toList) with
  | none => .error "MarkupError"
  | some text => .ok (String.ofList text)

scoped instance : Console where
  isTerminal := false
  markup := markup
  table rows := do
    let rows ← rows.mapM fun row => row.mapM markup
    return "\n".intercalate (rows.map (" ".intercalate ·))
  highlight s := .ok s
  echo _ := .ok ()
  logged r _ := r.levelColumn ++ " " ++ r.message ++ "\n"

end DaoMapper.Cli.Terminal
