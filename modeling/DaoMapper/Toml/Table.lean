import DaoMapper.Value

-- Tables in the making. A table may be opened once, an array of tables grows by
-- one table at a time, and a value is closed to both.
namespace DaoMapper.Toml

-- `opened` tells a table that was opened by its own header, or closed to further
-- headers, from one that only came about on the way to another.
inductive Node where
  | value (v : Value)
  | table (opened : Bool) (entries : List (String × Node))
  | tables (items : List (List (String × Node)))
  deriving Inhabited

abbrev Entries := List (String × Node)

namespace Entries

def get? (entries : Entries) (name : String) : Option Node := (entries.find? (·.1 == name)).map (·.2)

def update (entries : Entries) (name : String) (change : Option Node → Option Node) : Option Entries :=
  match entries with
  | [] => (change none).map fun n => [(name, n)]
  | (k, old) :: rest =>
    if k == name then (change (some old)).map fun n => (k, n) :: rest
    else (Entries.update rest name change).map ((k, old) :: ·)

end Entries

def Node.inside (change : Entries → Option Entries) : Option Node → Option Node
  | none => (change []).map (Node.table false)
  | some (.table opened entries) => (change entries).map (Node.table opened)
  | some (.tables items) =>
    match items.getLast? with
    | some last => (change last).map fun next => .tables (items.dropLast ++ [next])
    | none => none
  | some (.value _) => none

def changeAt (path : List String) (change : Entries → Option Entries) (entries : Entries) : Option Entries :=
  match path with
  | [] => change entries
  | name :: rest => entries.update name (Node.inside (changeAt rest change))

-- As `changeAt`, but only through tables that no header has opened.
def changeWithin (path : List String) (change : Entries → Option Entries) (entries : Entries) :
    Option Entries :=
  match path with
  | [] => change entries
  | name :: rest => entries.update name fun
    | some (.table false inner) => (changeWithin rest change inner).map (Node.table false)
    | none => (changeWithin rest change []).map (Node.table false)
    | some _ => none

def openTable (path : List String) (entries : Entries) : Option Entries :=
  changeAt path.dropLast (fun inner => inner.update (path.getLast?.getD "") fun
    | none => some (.table true [])
    | some (.table false inner) => some (.table true inner)
    | some _ => none) entries

def appendTable (path : List String) (entries : Entries) : Option Entries :=
  changeAt path.dropLast (fun inner => inner.update (path.getLast?.getD "") fun
    | none => some (.tables [[]])
    | some (.tables items) => some (.tables (items ++ [[]]))
    | some _ => none) entries

def putNew (name : String) (v : Value) (entries : Entries) : Option Entries :=
  entries.update name fun
    | none => some (.value v)
    | some _ => none

def assign (header key : List String) (v : Value) (entries : Entries) : Option Entries :=
  changeAt header (changeWithin key.dropLast (putNew (key.getLast?.getD "") v)) entries

-- A table that came about by a dotted key, closed to headers and to other sections.
def close (path : List String) (entries : Entries) : Entries :=
  (changeAt path.dropLast (fun inner => inner.update (path.getLast?.getD "") fun
    | some (.table _ inner) => some (.table true inner)
    | other => other) entries).getD entries

mutual

def Node.toValue : Node → Value
  | .value v => v
  | .table _ entries => .map (entriesToValues entries)
  | .tables items => .list (tablesToValues items)

def entriesToValues : Entries → List (Value × Value)
  | [] => []
  | (name, n) :: rest => (.text name, n.toValue) :: entriesToValues rest

def tablesToValues : List Entries → List Value
  | [] => []
  | entries :: rest => .map (entriesToValues entries) :: tablesToValues rest

end

end DaoMapper.Toml
