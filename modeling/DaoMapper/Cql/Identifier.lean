import DaoMapper.Problem

-- Keyspace and table names: the CQL form, the internal form, and the way between them.
namespace DaoMapper.Cql

open Text

def reservedWords : List String := [
  "add", "allow", "alter", "and", "apply", "asc", "authorize", "batch", "begin", "by",
  "columnfamily", "create", "default", "delete", "desc", "describe", "drop", "entries",
  "execute", "from", "full", "grant", "if", "in", "index", "infinity", "insert", "into",
  "is", "keyspace", "limit", "materialized", "mbean", "mbeans", "modify", "nan",
  "norecursive", "not", "null", "of", "on", "or", "order", "primary", "rename", "replace",
  "revoke", "schema", "select", "set", "table", "to", "token", "truncate", "unlogged",
  "unset", "update", "use", "using", "view", "where", "with"]

def smallLetter (c : Char) : Bool := 'a' ≤ c && c ≤ 'z'

def nameChar (c : Char) : Bool := smallLetter c || ('0' ≤ c && c ≤ '9') || c == '_'

-- One line feed at the very end is overlooked.
def plainName : List Char → Bool
  | [] => false
  | c :: rest =>
    smallLetter c && (rest.dropWhile nameChar == [] || rest.dropWhile nameChar == ['\n'])

def needsQuotes (name : List Char) : Bool :=
  reservedWords.contains (String.ofList name) || !plainName name

def escape (name : List Char) : List Char :=
  name.flatMap fun c => if c = doubleQuote then [doubleQuote, doubleQuote] else [c]

-- A doubled quote stands for one, and so does a quote that is not doubled.
def unescape : List Char → List Char
  | c :: d :: rest =>
    if c = doubleQuote ∧ d = doubleQuote then doubleQuote :: unescape rest
    else c :: unescape (d :: rest)
  | short => short

def enclosed? : List Char → Option (List Char)
  | [] => none
  | c :: rest =>
    if c = doubleQuote ∧ rest.getLast? = some doubleQuote then some rest.dropLast else none

inductive NameError where
  | needsQuotes (text : String)
  deriving DecidableEq, Repr

def NameError.problem : NameError → Problem
  | needsQuotes text => .validation (.text "identifier") (.text "needs double quotes") (.text text)

structure Identifier where
  internal : String
  deriving DecidableEq, Repr, Hashable

def Identifier.ofCql (text : String) : Except NameError Identifier :=
  match enclosed? text.toList with
  | some inner => .ok ⟨String.ofList (unescape inner)⟩
  | none =>
    let internal := lower text.toList
    if Cql.needsQuotes internal then .error (.needsQuotes text) else .ok ⟨String.ofList internal⟩

def Identifier.toCql (i : Identifier) (pretty : Bool) : String :=
  if pretty && !Cql.needsQuotes i.internal.toList then i.internal
  else String.ofList (doubleQuote :: escape i.internal.toList ++ [doubleQuote])

def Identifier.shown (i : Identifier) : String := "Identifier(internal=" ++ quoted i.internal ++ ")"

inductive NameArg where
  | absent
  | cql (text : String)
  | known (i : Identifier)
  deriving DecidableEq, Repr

def NameArg.resolve : NameArg → Except NameError (Option Identifier)
  | absent => .ok none
  | cql text => (Identifier.ofCql text).map some
  | known i => .ok (some i)

end DaoMapper.Cql
