import DaoMapper.Code.Tree

-- The text of generated modules.
namespace DaoMapper.Code

open Mapper (Literal)

-- Numbers beyond all others are written as a literal too large to hold.
def literalText : Literal → String
  | .float .undefined => "(1e309-1e309)"
  | .float (.infinite negative) => if negative then "-1e309" else "1e309"
  | l => l.toValue.shown

mutual

def Expr.text : Expr → String
  | .name id => id
  | .field value field => value.text ++ "." ++ field
  | .call function arguments => function.text ++ "(" ++ ", ".intercalate (exprTexts arguments) ++ ")"
  | .closure parameters body =>
    let names := if parameters.isEmpty then "" else " " ++ ", ".intercalate parameters
    "lambda" ++ names ++ ": " ++ body.text
  | .literal l => literalText l
  | .subscript value index => value.text ++ "[" ++ index.text ++ "]"

def exprTexts : List Expr → List String
  | [] => []
  | e :: rest => e.text :: exprTexts rest

end

def Statement.text : Statement → String
  | .assign target value => target.text ++ " = " ++ value.text
  | .ret value => "return " ++ value.text

def Argument.text (a : Argument) : String :=
  match a.type with
  | none => a.name
  | some type => a.name ++ ": " ++ type.text

def argumentText (a : Argument × Option Literal) : String :=
  match a.2 with
  | none => a.1.text
  | some l => a.1.text ++ "=" ++ literalText l

def Function.paired (f : Function) : List (Argument × Option Literal) :=
  let bare := f.arguments.length - f.defaults.length
  f.arguments.zip (List.replicate bare none ++ f.defaults.map some)

def Function.head (f : Function) : String :=
  "def " ++ f.name ++ "(" ++ ", ".intercalate (f.paired.map argumentText) ++ ") -> " ++ f.returns.text ++ ":"

def indent (line : String) : String := "    " ++ line

def Function.lines (f : Function) : List String :=
  f.head :: f.body.map fun s => indent s.text

-- Line feeds and tabs stand for themselves in a documentation text.
def docChar (c : Char) : List Char := if c = '\n' ∨ c = '\t' then [c] else Text.escapeChar c

def triple (quote : Char) : List Char := List.replicate 3 quote

-- A text with both kinds of three quotes is written with all its escapes.
def docText (doc : String) : String :=
  let escaped := doc.toList.flatMap docChar
  let wrap (quote : Char) (body : List Char) := String.ofList (triple quote ++ body ++ triple quote)
  if !Text.occurs (triple Text.doubleQuote) escaped then wrap Text.doubleQuote escaped
  else if !Text.occurs (triple Text.apostrophe) escaped then wrap Text.apostrophe escaped
  else wrap (Text.quoteFor doc.toList) (Text.quoteBody doc.toList)

def Import.text (i : Import) : String :=
  "from " ++ i.module ++ " import " ++ ", ".intercalate i.names

def Class.lines (c : Class) : List String :=
  ("class " ++ c.name ++ "(" ++ c.base.text ++ "):") :: indent (docText c.doc) ::
    c.methods.flatMap fun f => "" :: f.lines.map indent

def Module.text (m : Module) : String :=
  "\n".intercalate (docText m.doc :: m.imports.map Import.text ++ "" :: m.body.lines)

def Function.text (f : Function) : String := "\n".intercalate f.lines

end DaoMapper.Code
