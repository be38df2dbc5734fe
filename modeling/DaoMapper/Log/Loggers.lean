import DaoMapper.Log.Sinks
import DaoMapper.Settings.Environment
import DaoMapper.Settings.Logging

-- Loggers by name. The first use of a name sets the sinks up by the environment if
-- nobody else has.
namespace DaoMapper.Log

open Files (Tree)
open Settings (Environment)

def ownName : String := "daogen.kernel.logging"

def chosen (env : Environment) (name usual : String) (change : String → String) (allowed : List String) :
    String × List String :=
  let word := change ((env.get? name).getD usual)
  if allowed.contains word then (word, []) else (usual, [name ++ "=" ++ Text.quoted word])

def requestOf (level format : String) : Request :=
  { setup := ⟨.text level, .text format, .null, .bool true, .bool true, .bool true, .bool false⟩
    outputFile := .null
    force := false }

def requestFor (l : Settings.Logging) (level : Option Value) : Request :=
  let file := l.outputFile
  { setup := ⟨(level.filter Value.given).getD (.text l.level), .text l.format,
      if file.given then .text file.plain else .null, l.useColor, l.includeTimestamp, .bool true, .bool false⟩
    outputFile := file
    force := false }

section

variable [Library]

def setUp (s : Sinks) (tree : Tree) (env : Environment) : Except SinkFault (List Written) × Sinks × Tree :=
  let (level, badLevel) := chosen env "DAOGEN_LOG_LEVEL" "WARNING" Text.upperText Settings.logLevels
  let (format, badFormat) := chosen env "DAOGEN_LOG_FORMAT" "structured" Text.lowerText Settings.logFormats
  match s.configure tree (requestOf level format) with
  | (.error f, s, tree) => (.error f, s, tree)
  | (.ok (), s, tree) =>
    let (shown, tree) := (badLevel ++ badFormat).foldl (fun (shown, tree) words =>
      let r : Record := ⟨.ofSeverity .warning, ownName, .null, "Ignoring invalid " ++ words⟩
      let (more, tree) := s.emit tree r
      (shown ++ more, tree)) ([], tree)
    (.ok shown, s, tree)

structure Loggers where
  sinks : Sinks
  known : List String

def Loggers.find (l : Loggers) (tree : Tree) (env : Environment) (name : String) :
    Except SinkFault (List Written) × Loggers × Tree :=
  if l.known.contains name then (.ok [], l, tree)
  else
    let known := l.known ++ [name]
    if l.sinks.active.isSome then (.ok [], { l with known }, tree)
    else match setUp l.sinks tree env with
      | (.error f, sinks, tree) => (.error f, { l with sinks }, tree)
      | (.ok shown, sinks, tree) => (.ok shown, ⟨sinks, known⟩, tree)

end

end DaoMapper.Log
