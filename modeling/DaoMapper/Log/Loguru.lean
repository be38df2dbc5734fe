import DaoMapper.Log.Loggers
import DaoMapper.Log.Template

-- The library that is in use, as far as its documentation goes: sinks in the order in which
-- they come, each under a number of its own.
namespace DaoMapper.Log.Loguru

open Files (Path Tree)

-- `place` is where a file was found when it was opened.
structure Handler where
  sink : Sink
  place : Option (List String)

-- `opened` are the places of all files that were ever opened. `time` and `here` stand in all
-- records for when and where they were made.
structure State where
  handlers : List Handler
  next : Nat
  opened : List (List String)
  time : String
  here : String
  started : 0 < next
  below : ∀ h ∈ handlers, h.sink.number < next
  known : ∀ h ∈ handlers, ∀ place, h.place = some place → place ∈ opened

namespace State

def initial (time here : String) : State :=
  ⟨[⟨⟨0, .foreign, Severity.debug.rank⟩, none⟩], 1, [], time, here, Nat.one_pos, by simp, by simp⟩

def bare (time here : String) : State := ⟨[], 1, [], time, here, Nat.one_pos, by simp, by simp⟩

-- The next number is used up by no sink, though a file may have been opened for one.
def skip (s : State) (place : Option (List String)) : State :=
  { s with
    next := s.next + 1
    opened := place.toList ++ s.opened
    started := Nat.succ_pos _
    below := fun h there => Nat.lt_succ_of_lt (s.below h there)
    known := fun h there place held => List.mem_append_right _ (s.known h there place held) }

def put (s : State) (t : Target) (least : Nat) (place : Option (List String)) : State :=
  { s with
    handlers := s.handlers ++ [⟨⟨s.next, t, least⟩, place⟩]
    next := s.next + 1
    opened := place.toList ++ s.opened
    started := Nat.succ_pos _
    below := by
      intro h there
      rcases List.mem_append.mp there with old | new
      · exact Nat.lt_succ_of_lt (s.below h old)
      · rw [List.mem_singleton.mp new]
        exact Nat.lt_succ_self _
    known := by
      intro h there found isPlace
      rcases List.mem_append.mp there with old | new
      · exact List.mem_append_right _ (s.known h old found isPlace)
      · rw [List.mem_singleton.mp new] at isPlace
        exact List.mem_append_left _ (Option.mem_toList.mpr isPlace) }

def remove (s : State) (number : Nat) : State :=
  { s with
    handlers := s.handlers.filter (·.sink.number ≠ number)
    below := fun h there => s.below h (List.mem_filter.mp there).1
    known := fun h there => s.known h (List.mem_filter.mp there).1 }

end State

-- How the time is written in a file name is not told apart.
def plainTime (layout : Bool) : List Char → List Char
  | [] => []
  | '\x7b' :: 't' :: 'i' :: 'm' :: 'e' :: ':' :: rest => "\x7btime".toList ++ plainTime true rest
  | c :: rest => if layout && c ≠ '\x7d' then plainTime true rest else c :: plainTime false rest

-- The name may hold the time. What the file holds stays.
def openFile (time : String) (tree : Tree) (path : Path) : Except String (List String) × Tree :=
  match fill ⟨none, [("time", .text time)]⟩ (String.ofList (plainTime false path.text.toList)) with
  | .error f => (.error f.kind, tree)
  | .ok name =>
    let path := Path.ofText name
    let place := path.parts.foldl Tree.step (tree.start path)
    match tree.makeDirectory ⟨1, place.dropLast⟩ with
    | (.error f, tree) => (.error f.kind, tree)
    | (.ok (), tree) =>
      match tree.at? place with
      | some .directory => (.error Files.PathFault.isDirectory.kind, tree)
      | some (.file _) => (.ok place, tree)
      | none => (.ok place, tree.put place (.file ""))

def openFor (time : String) (tree : Tree) : Target → Except String (Option (List String)) × Tree
  | .file path => let r := openFile time tree path; (r.1.map some, r.2)
  | _ => (.ok none, tree)

-- The number is used up and the file open before anything else is looked at.
def add (s : State) (tree : Tree) (t : Target) (level : Value) : Except String Nat × State × Tree :=
  let (opened, tree) := openFor s.time tree t
  match opened, Level.ofValue level with
  | .error kind, _ => (.error kind, s.skip none, tree)
  | .ok place, .error f => (.error f.kind, s.skip place, tree)
  | .ok place, .ok level => (.ok s.next, s.put t level.rank place, tree)

def append (tree : Tree) (place : Option (List String)) (line : String) : Tree :=
  match place with
  | none => tree
  | some place =>
    match tree.at? place with
    | some (.file text) => tree.put place (.file (text ++ line))
    | _ => tree

def emit (s : State) (tree : Tree) (r : Record) : List Written × Tree :=
  (s.handlers.filter (·.sink.least ≤ r.level.rank)).foldl (fun (shown, tree) h =>
    match h.sink.target with
    | .terminal form stamped => (shown ++ [r.written s.time s.here form stamped], tree)
    | .file _ => (shown, append tree h.place r.line)
    | .foreign => (shown, tree)) ([], tree)

scoped instance : Library where
  State := State
  sinks s := s.handlers.map (·.sink)
  files := State.opened
  add := add
  remove := State.remove
  emit := emit

inductive LogFault where
  | level (f : LevelFault)
  | message (f : FillFault)
  deriving DecidableEq, Repr

def LogFault.kind : LogFault → String
  | level f => f.kind
  | message f => f.kind

-- Without sinks nothing is looked at, and a message that no sink takes is not filled
-- in. One without values is no template.
def messageFor (s : State) (level : Value) (message : String) (given : Supply) :
    Except LogFault (Option (Level × String)) := do
  if s.handlers.isEmpty then return none
  let level ← (Level.ofValue level).mapError .level
  if !s.handlers.any (·.sink.least ≤ level.rank) then return none
  let plain := (given.positions.getD []).isEmpty && given.names.isEmpty
  return some (level, ← if plain then pure message else (fill given message).mapError .message)

def log (s : State) (tree : Tree) (source name : String) (level : Value) (message : String) (given : Supply) :
    Except LogFault (List Written × Tree) := do
  match ← messageFor s level message given with
  | none => return ([], tree)
  | some (level, text) =>
    let logger := ((given.names.find? (·.1 == "module")).map (·.2)).getD (.text name)
    return emit s tree ⟨level, source, logger, text⟩

end DaoMapper.Log.Loguru
