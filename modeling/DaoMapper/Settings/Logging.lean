import DaoMapper.Settings.Generator

-- How log records are written, and what is accepted for that.
namespace DaoMapper.Settings

def logLevels : List String := ["TRACE", "DEBUG", "INFO", "WARNING", "ERROR", "CRITICAL"]

def logFormats : List String := ["console", "json", "structured", "rich"]

-- The level and the format are checked; the rest is taken as it is.
structure Logging where
  level : String
  format : String
  outputFile : Value
  useColor : Value
  includeTimestamp : Value

def Logging.default : Logging := ⟨"INFO", "structured", .null, .bool true, .bool true⟩

def oneOf? (allowed : List String) : Value → Option String
  | .text s => if allowed.contains s then some s else none
  | _ => none

def Logging.check (level format outputFile useColor includeTimestamp : Value) :
    Except Fault Logging := do
  let some levelName := oneOf? logLevels level
    | throw (.invalid "logging" ("invalid level " ++ level.shown))
  let some formatName := oneOf? logFormats format
    | throw (.invalid "logging" ("invalid format " ++ format.shown))
  return ⟨levelName, formatName, outputFile, useColor, includeTimestamp⟩

def Logging.fields (l : Logging) : List (String × Value) := [
  ("level", .text l.level), ("format", .text l.format), ("output_file", l.outputFile),
  ("use_color", l.useColor), ("include_timestamp", l.includeTimestamp)]

def Logging.fieldNames : List String := Logging.default.fields.map (·.1)

def Logging.ofFields (values : List (String × Value)) : Except Fault Logging :=
  if values.any fun v => !Logging.fieldNames.contains v.1 then .error .unfit
  else
    let value := chosen values Logging.default.fields
    Logging.check (value "level") (value "format") (value "output_file") (value "use_color")
      (value "include_timestamp")

structure Config where
  logging : Logging
  generator : Generator

def Config.default : Config := ⟨.default, .default⟩

def Config.toValue (c : Config) : Value :=
  let part (fields : List (String × Value)) : Value := .map (fields.map fun f => (.text f.1, f.2))
  .map [(.text "logging", part c.logging.fields), (.text "generator", part c.generator.fields)]

end DaoMapper.Settings
