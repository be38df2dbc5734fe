import DaoMapper.Cli.Words
import DaoMapper.Files.Path
import DaoMapper.Text.Quoted

-- What the words of a command line ask for.
namespace DaoMapper.Cli

open Files (Path)

def helpSwitch : Switch := ⟨"help", none, false⟩

def openingSwitches : List Switch :=
  [⟨"quiet", some 'q', false⟩, ⟨"verbose", some 'V', false⟩, ⟨"version", some 'v', false⟩, helpSwitch]

def configSwitch : Switch := ⟨"config", some 'c', true⟩

inductive Group where
  | generate
  | config
  deriving DecidableEq, Repr

structure Opening where
  quiet : Bool
  verbose : Bool
  asksVersion : Bool
  asksHelp : Bool
  command : Option (Group × List String)
  deriving DecidableEq, Repr

namespace Opening

def groupOf? : String → Option Group
  | "generate" => some .generate
  | "config" => some .config
  | _ => none

-- Help is given whatever the command is called.
def ofWords (words : List String) : Except Misuse Opening := do
  if words.isEmpty then throw .noCommand
  let w ← Words.read openingSwitches false words
  let opening (command : Option (Group × List String)) : Opening :=
    ⟨w.has "quiet", w.has "verbose", w.has "version", w.has "help", command⟩
  match w.rest with
  | [] => return opening none
  | name :: more =>
    match groupOf? name with
    | some g => return opening (some (g, more))
    | none => if w.has "help" then return opening none else throw (.noSuchCommand name)

def level? (o : Opening) : Option String :=
  if o.quiet then some "ERROR" else if o.verbose then some "DEBUG" else none

end Opening

inductive Task where
  | help
  | generate (target : String) (output config : Option Path)
  | showSettings (config : Option Path)
  deriving DecidableEq, Repr

namespace Task

def path? (w : Words) (name : String) : Option Path := (w.value? name).map Path.ofText

def ofGenerate (words : List String) : Except Misuse Task := do
  let w ← Words.read [⟨"output", some 'o', true⟩, configSwitch, helpSwitch] true words
  if w.has "help" then return .help
  match w.rest with
  | [] => throw .noTarget
  | [target] => return .generate target (path? w "output") (path? w "config")
  | _ :: more => throw (.excess more)

def ofShow (words : List String) : Except Misuse Task := do
  let w ← Words.read [configSwitch, helpSwitch] true words
  if w.has "help" then return .help
  if w.rest.isEmpty then return .showSettings (path? w "config") else throw (.excess w.rest)

def ofWords : Group → List String → Except Misuse Task
  | .generate, words => ofGenerate words
  | .config, words => do
    let w ← Words.read [helpSwitch] false words
    if w.has "help" then return .help
    match w.rest with
    | [] => throw .noCommand
    | "show" :: more => ofShow more
    | name :: _ => throw (.noSuchCommand name)

end Task

namespace Misuse

def message : Misuse → String
  | noSuchOption name => "No such option: " ++ name
  | noValue name => "Option --" ++ name ++ " requires an argument."
  | needlessValue name => "Option --" ++ name ++ " does not take a value."
  | noCommand => "Missing command."
  | noSuchCommand name => "No such command '" ++ name ++ "'."
  | noTarget => "Missing argument 'TARGET'."
  | excess words => "Got unexpected extra arguments (" ++ " ".intercalate words ++ ")"
  | notTarget word => "expected MODULE:MAPPER, got " ++ Text.quoted word
  | notImportable module message => "cannot import " ++ Text.quoted module ++ ": " ++ message
  | noMember module qualname => Text.quoted module ++ " has no attribute " ++ Text.quoted qualname
  | notClass word => Text.quoted word ++ " is not a class"

end Misuse

def usage : String :=
  "Usage: daogen [-q] [-V] [-v] COMMAND\n\n" ++
  "  generate [-o PATH] [-c PATH] MODULE:MAPPER   Generate the implementation of a mapper\n" ++
  "  config show [-c PATH]                        Show the effective configuration as YAML\n"

end DaoMapper.Cli
