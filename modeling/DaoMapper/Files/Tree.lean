import DaoMapper.Files.Path

-- Files and directories, and the directory where one is.
namespace DaoMapper.Files

inductive Entry where
  | directory
  | file (text : String)
  deriving DecidableEq, Repr

inductive PathFault where
  | missing
  | notDirectory
  | isDirectory
  | exists
  deriving DecidableEq, Repr

def PathFault.kind : PathFault → String
  | missing => "FileNotFoundError"
  | notDirectory => "NotADirectoryError"
  | isDirectory => "IsADirectoryError"
  | «exists» => "FileExistsError"

-- What there is, under its parts from the root; the root itself is no entry.
structure Tree where
  entries : List (List String × Entry)
  current : List String
  deriving Repr

namespace Tree

def empty : Tree := ⟨[], []⟩

def at? (t : Tree) (place : List String) : Option Entry :=
  if place.isEmpty then some .directory else (t.entries.find? (·.1 = place)).map (·.2)

def put (t : Tree) (place : List String) (e : Entry) : Tree :=
  { t with entries := t.entries.filter (·.1 ≠ place) ++ [(place, e)] }

def drop (t : Tree) (place : List String) : Tree :=
  { t with entries := t.entries.filter (·.1 ≠ place) }

def step (place : List String) (part : String) : List String :=
  if part = ".." then place.dropLast else place ++ [part]

-- Where a path leads from a place; every place on the way has to be a directory.
def walk (t : Tree) (place : List String) : List String → Except PathFault (List String)
  | [] => match t.at? place with
    | some _ => .ok place
    | none => .error .missing
  | part :: rest => match t.at? place with
    | some .directory => t.walk (step place part) rest
    | some (.file _) => .error .notDirectory
    | none => .error .missing

def start (t : Tree) (p : Path) : List String := if p.slashes = 0 then t.current else []

def resolve (t : Tree) (p : Path) : Except PathFault (List String) := t.walk (t.start p) p.parts

def has (t : Tree) (p : Path) : Bool := (t.resolve p).isOk

def read (t : Tree) (p : Path) : Except PathFault String := do
  match t.at? (← t.resolve p) with
  | some (.file text) => return text
  | some .directory => throw .isDirectory
  | none => throw .missing

abbrev Change := Except PathFault Unit × Tree

-- Directories along the parts, those made that are missing; they stay where a file is
-- in the way. `making` says whether one has been made by then.
def makeFrom (t : Tree) (making : Bool) (place : List String) : List String → Change
  | [] => (.ok (), t)
  | part :: rest =>
    let next := step place part
    match t.at? next with
    | some .directory => t.makeFrom making next rest
    | some (.file _) => (.error (if rest.isEmpty || making then .exists else .notDirectory), t)
    | none => (t.put next .directory).makeFrom true next rest

def makeDirectory (t : Tree) (p : Path) : Change := t.makeFrom false (t.start p) p.parts

def write (t : Tree) (p : Path) (text : String) : Except PathFault Tree := do
  let some name := p.parts.getLast? | throw .isDirectory
  let place ← t.resolve p.parent
  match t.at? place with
  | some .directory =>
    let target := step place name
    match t.at? target with
    | some .directory => throw .isDirectory
    | _ => return t.put target (.file text)
  | _ => throw .notDirectory

def save (t : Tree) (p : Path) (text : String) : Change :=
  match t.makeDirectory p.parent with
  | (.error f, made) => (.error f, made)
  | (.ok (), made) =>
    match made.write p text with
    | .error f => (.error f, made)
    | .ok next => (.ok (), next)

def remove (t : Tree) (p : Path) : Except PathFault Tree := do
  let place ← t.resolve p
  match t.at? place with
  | some (.file _) => return t.drop place
  | _ => throw .isDirectory

def enter (t : Tree) (p : Path) : Except PathFault Tree := do
  let place ← t.resolve p
  match t.at? place with
  | some .directory => return { t with current := place }
  | _ => throw .notDirectory

end Tree

end DaoMapper.Files
