import DaoMapper.Log.Library

-- Where records go. The sinks in here are replaced as a whole when the settings
-- change; others may be there that belong to somebody else.
namespace DaoMapper.Log

open Files (Tree Path PathFault)

structure Setup where
  level : Value
  format : Value
  outputFile : Value
  useColor : Value
  includeTimestamp : Value
  backtrace : Value
  diagnose : Value

def Setup.values (s : Setup) : List Value :=
  [s.level, s.format, s.outputFile, s.useColor, s.includeTimestamp, s.backtrace, s.diagnose]

def Setup.same (s t : Setup) : Bool := Value.sameAll s.values t.values

inductive SinkFault where
  | terminal (kind : String)
  | path
  | directory (f : PathFault)
  | file (kind : String)
  deriving DecidableEq, Repr

def SinkFault.kind : SinkFault → String
  | terminal kind | file kind => kind
  | path => "TypeError"
  | directory f => f.kind

structure Request where
  setup : Setup
  outputFile : Value
  force : Bool

namespace Request

def defaults : List (String × Value) := [
  ("level", .text "INFO"), ("format", .text "structured"), ("output_file", .null), ("use_color", .bool true),
  ("include_timestamp", .bool true), ("force_reconfigure", .bool false), ("backtrace", .bool true),
  ("diagnose", .bool false)]

def ofFields? (given : List (String × Value)) : Option Request :=
  if given.any fun g => !(defaults.map (·.1)).contains g.1 then none
  else
    let value (name : String) : Value := (((given ++ defaults).find? (·.1 == name)).map (·.2)).getD .null
    let file := value "output_file"
    some {
      setup := {
        level := value "level"
        format := value "format"
        outputFile := if file.given then .text file.plain else .null
        useColor := value "use_color"
        includeTimestamp := value "include_timestamp"
        backtrace := value "backtrace"
        diagnose := value "diagnose" }
      outputFile := file
      force := (value "force_reconfigure").given }

def terminal (r : Request) : Target := .terminal (Form.ofValue r.setup.format) r.setup.includeTimestamp.given

end Request

section

variable [Library]

-- `own` are the numbers of the sinks that were put in here, last one first.
structure Sinks where
  library : Library.State
  own : List Nat
  active : Option Setup

namespace Sinks

def all (s : Sinks) : List Sink := Library.sinks s.library

def remove (s : Sinks) (number : Nat) : Sinks := { s with library := Library.remove s.library number }

def removeOwn (s : Sinks) : Sinks := { s with library := s.own.foldl Library.remove s.library, own := [] }

def forget (s : Sinks) : Sinks := { s with active := none }

-- The sink that the library starts with goes with the first settings.
def withoutInitial (s : Sinks) : Sinks := if s.active.isNone then s.remove 0 else s

abbrev Step := Except SinkFault Unit × Sinks × Tree

def add (s : Sinks) (tree : Tree) (t : Target) (level : Value) (blame : String → SinkFault) : Step :=
  match Library.add s.library tree t level with
  | (.error kind, library, tree) => (.error (blame kind), { s with library }, tree)
  | (.ok number, library, tree) => (.ok (), { s with library, own := number :: s.own }, tree)

def addFile (s : Sinks) (tree : Tree) (r : Request) : Step :=
  match r.outputFile with
  | .text name =>
    let path := Path.ofText name
    match tree.makeDirectory path.parent with
    | (.error f, tree) => (.error (.directory f), s, tree)
    | (.ok (), tree) => s.add tree (.file path) r.setup.level .file
  | _ => (.error .path, s, tree)

-- A fault leaves what was done by then, and the settings as they were.
def replace (s : Sinks) (tree : Tree) (r : Request) : Step :=
  match s.withoutInitial.removeOwn.add tree r.terminal r.setup.level .terminal with
  | (.error f, s, tree) => (.error f, s, tree)
  | (.ok (), s, tree) =>
    let (result, s, tree) := if r.outputFile.given then s.addFile tree r else (.ok (), s, tree)
    match result with
    | .error f => (.error f, s, tree)
    | .ok () => (.ok (), { s with active := some r.setup }, tree)

-- The same settings once more change nothing, unless it is asked for.
def configure (s : Sinks) (tree : Tree) (r : Request) : Step :=
  if s.active.any r.setup.same && !r.force then (.ok (), s, tree) else s.replace tree r

def emit (s : Sinks) (tree : Tree) (r : Record) : List Written × Tree := Library.emit s.library tree r

end Sinks

end

end DaoMapper.Log
