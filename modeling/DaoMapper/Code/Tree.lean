import DaoMapper.Mapper.Signature

-- Generated modules as trees: imports and one class whose methods assign and return.
namespace DaoMapper.Code

open Mapper (Literal)

inductive Expr where
  | name (id : String)
  | field (value : Expr) (name : String)
  | call (function : Expr) (arguments : List Expr)
  | closure (parameters : List String) (body : Expr)
  | literal (l : Literal)
  | subscript (value index : Expr)
  deriving Repr

inductive Statement where
  | assign (target value : Expr)
  | ret (value : Expr)
  deriving Repr

structure Argument where
  name : String
  type : Option Expr
  deriving Repr

-- The defaults belong to the trailing arguments.
structure Function where
  name : String
  arguments : List Argument
  defaults : List Literal
  body : List Statement
  returns : Expr
  deriving Repr

structure Class where
  name : String
  base : Expr
  doc : String
  methods : List Function
  deriving Repr

structure Import where
  module : String
  names : List String
  deriving Repr

structure Module where
  doc : String
  imports : List Import
  body : Class
  deriving Repr

def Expr.self (field : String) : Expr := .field (.name "self") field

def Expr.dotted (qualname : String) : Expr :=
  match Text.splitAt '.' qualname.toList with
  | [] => .name ""
  | first :: rest =>
    rest.foldl (fun e part => .field e (String.ofList part)) (.name (String.ofList first))

end DaoMapper.Code
