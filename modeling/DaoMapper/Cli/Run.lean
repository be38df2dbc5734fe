import DaoMapper.Cli.Command
import DaoMapper.Cli.Console
import DaoMapper.Cli.Target
import DaoMapper.Interface.Scan
import DaoMapper.Log.Loggers
import DaoMapper.Settings.Store

-- Commands carried out: what they print, what they write, and how they end.
namespace DaoMapper.Cli

open Files (Path PathFault Tree)
open Interface (ClassId Hierarchy ScanFault)
open Log (SinkFault)
open Mapper (Diagnostic Report)
open Settings (Config Environment LoadFault)

structure Workspace [Log.Library] where
  tree : Tree
  env : Environment
  store : Settings.Store
  sinks : Log.Sinks
  importer : Importer

inductive Trouble where
  | misuse (m : Misuse)
  | settings (f : LoadFault)
  | sinks (f : SinkFault)
  | target (kind : String)
  | mapper (f : ScanFault)
  | file (f : PathFault)
  | console (kind : String)
  | notShowable
  deriving Repr

namespace Trouble

def ofTarget : TargetFault → Trouble
  | .misuse m => misuse m
  | .raised kind => target kind

def code : Trouble → Nat
  | misuse _ => 2
  | _ => 1

def settingsMark : String := "[red]✗ Configuration error:[/red] "

-- What users are told, with marks for its style; any other trouble is an exception.
def told? : Trouble → Option String
  | settings (.file .missing) => some (settingsMark ++ "[Errno 2] No such file or directory")
  | settings f => f.message?.map (settingsMark ++ ·)
  | mapper (.refused r) => some ("[red]✗ " ++ r.problem.message ++ "[/red]")
  | _ => none

end Trouble

structure Outcome where
  code : Nat
  output : String
  errors : List String
  trouble : Option Trouble

namespace Outcome

def done (output : String) : Outcome := ⟨0, output, [], none⟩

def broken (t : Trouble) : Outcome := ⟨t.code, "", [], some t⟩

section

variable [Console]

def ofTrouble (t : Trouble) : Outcome :=
  match t, t.told? with
  | .misuse m, _ => { broken t with errors := [m.message] }
  | _, none => broken t
  | _, some text =>
    match Console.markup text with
    | .ok line => { broken t with errors := [line] }
    | .error kind => broken (.console kind)

def print (text : String) : Outcome :=
  match Console.echo text with
  | .ok () => done text
  | .error kind => broken (.console kind)

end

end Outcome

section

variable [Console]

def logOutput (all : List Log.Written) : String :=
  String.join (all.map fun
    | .plain r stamped => Console.logged r stamped
    | _ => "")

def logErrors (all : List Log.Written) : List String :=
  all.filterMap fun
    | .text s => some s.trimAsciiEnd.toString
    | .entry j => some j.render
    | .plain .. => none

def Outcome.after (o : Outcome) (written : List Log.Written) : Outcome :=
  { o with output := logOutput written ++ o.output, errors := logErrors written ++ o.errors }

def diagnosticLines (report : Report) : Except Trouble (List String) :=
  let row (d : Diagnostic) : List String :=
    let (color, severity) := if d.isError then ("red", "error") else ("yellow", "warning")
    ["[" ++ color ++ "]" ++ severity ++ "[/" ++ color ++ "]", d.location, d.message]
  if report.diagnostics.isEmpty then .ok []
  else ((Console.table (report.diagnostics.map row)).mapError .console).map ([·])

def status (report : Report) : Nat := if (Diagnostic.errors report.diagnostics).isEmpty then 0 else 1

def display (text : String) : Except Trouble String :=
  (if Console.isTerminal then Console.highlight text else (Console.echo text).map fun _ => text).mapError .console

def wroteLine (p : Path) : Except Trouble String :=
  (Console.markup ("[green]✓ Wrote[/green] " ++ p.text)).mapError .console

end

namespace Workspace

section

variable [Log.Library]

def note (w : Workspace) (events : List Log.Event) : List Log.Written × Workspace :=
  let (written, tree) := events.foldl (fun (all, tree) e =>
    let r : Log.Record := ⟨.ofSeverity e.severity, e.logger, .text e.logger, e.message⟩
    let (more, tree) := w.sinks.emit tree r
    (all ++ more, tree)) (([] : List Log.Written), w.tree)
  (written, { w with tree })

def configure (w : Workspace) (r : Log.Request) : Except Trouble Unit × Workspace :=
  let (result, sinks, tree) := w.sinks.configure w.tree r
  (result.mapError .sinks, { w with sinks, tree })

def start (w : Workspace) (level : Option String) : Except Trouble Unit × Workspace :=
  w.configure (Log.requestOf (level.getD "WARNING") "rich")

section

variable [Yaml.Library]

def load (w : Workspace) (config : Option Path) : Except Trouble Config × List Log.Written × Workspace :=
  let (events, result, store) := w.store.load w.env w.tree config
  let (written, w) := w.note events
  ((result.mapError .settings).map (·.config), written, { w with store })

structure Ready where
  config : Config
  classes : Hierarchy
  mapper : ClassId

def prepare (w : Workspace) (level : Option String) (target : String) (config : Option Path) :
    Except Trouble Ready × List Log.Written × Workspace :=
  match w.load config with
  | (.error t, written, w) => (.error t, written, w)
  | (.ok c, written, w) =>
    match w.configure (Log.requestFor c.logging (level.map .text)) with
    | (.error t, w) => (.error t, written, w)
    | (.ok (), w) =>
      match w.importer.find w.tree target with
      | .error f => (.error (.ofTarget f), written, w)
      | .ok (h, mapper) => (.ok ⟨c, h, mapper⟩, written, w)

end

def render (w : Workspace) (ready : Ready) : Report × Except Trouble String × List Log.Written × Workspace :=
  let (report, result) := ready.classes.implement (.type ready.mapper) ready.config.generator .empty
  let (written, w) := w.note report.events
  (report, (result.mapError .mapper).map (·.text), written, w)

variable [Console]

-- What was written stays, also if nobody can be told.
def deliver (w : Workspace) (output : Option Path) (text : String) :
    Except Trouble (String × List String) × Workspace :=
  match output with
  | none => ((display text).map (·, []), w)
  | some p =>
    match w.tree.save p text with
    | (.error f, tree) => (.error (.file f), { w with tree })
    | (.ok (), tree) => ((wroteLine p).map fun line => ("", [line]), { w with tree })

def finish (w : Workspace) (report : Report) (output : Option Path) (text : String) : Outcome × Workspace :=
  match diagnosticLines report with
  | .error t => (.broken t, w)
  | .ok lines =>
    match w.deliver output text with
    | (.error t, w) => ({ Outcome.broken t with errors := lines }, w)
    | (.ok (printed, more), w) =>
      (⟨status report, printed, lines ++ more, none⟩, w)

variable [Yaml.Library]

def generate (w : Workspace) (level : Option String) (target : String) (output config : Option Path) :
    Outcome × Workspace :=
  match w.prepare level target config with
  | (.error t, written, w) => ((Outcome.ofTrouble t).after written, w)
  | (.ok ready, written, w) =>
    match w.render ready with
    | (_, .error t, more, w) => ((Outcome.ofTrouble t).after (written ++ more), w)
    | (report, .ok text, more, w) =>
      let (o, w) := w.finish report output text
      (o.after (written ++ more), w)

def showSettings (w : Workspace) (config : Option Path) : Outcome × Workspace :=
  match w.load config with
  | (.error t, written, w) => ((Outcome.ofTrouble t).after written, w)
  | (.ok c, written, w) =>
    let o := match Yaml.Library.write c.toValue with
      | none => Outcome.broken .notShowable
      | some text => .print text
    (o.after written, w)

def perform (w : Workspace) (level : Option String) (t : Task) : Outcome × Workspace :=
  match t with
  | .help => (.done usage, w)
  | .generate target output config => w.generate level target output config
  | .showSettings config => w.showSettings config

def version : Outcome :=
  match Console.markup "[bold blue]daogen[/bold blue] version [green]0.1.0[/green]" with
  | .ok line => .done (line ++ "\n")
  | .error kind => .broken (.console kind)

def follow (w : Workspace) (o : Opening) : Outcome × Workspace :=
  match w.start o.level? with
  | (.error t, w) => (.broken t, w)
  | (.ok (), w) =>
    if o.asksVersion then (version, w)
    else match o.command with
      | none => (.done "", w)
      | some (group, words) =>
        match Task.ofWords group words with
        | .error m => (.ofTrouble (.misuse m), w)
        | .ok t => w.perform o.level? t

def run (w : Workspace) (words : List String) : Outcome × Workspace :=
  match Opening.ofWords words with
  | .error m => (.ofTrouble (.misuse m), w)
  | .ok o => if o.asksHelp then (.done usage, w) else w.follow o

end

end Workspace

end DaoMapper.Cli
