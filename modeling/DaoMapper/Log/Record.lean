import DaoMapper.Json.Printer
import DaoMapper.Log.Event
import DaoMapper.Log.Template

-- Records as sinks write them.
namespace DaoMapper.Log

structure Level where
  name : String
  rank : Nat
  deriving DecidableEq, Repr

inductive LevelFault where
  | unknown
  | unfit
  deriving DecidableEq, Repr

def LevelFault.kind : LevelFault → String
  | unknown => "ValueError"
  | unfit => "TypeError"

namespace Level

def ofSeverity (s : Severity) : Level := ⟨s.name, s.rank⟩

def ofNumber (n : Int) : Except LevelFault Level :=
  if n < 0 then .error .unknown else .ok ⟨s!"Level {n}", n.toNat⟩

def ofValue : Value → Except LevelFault Level
  | .text name => (Severity.ofName? name).elim (.error .unknown) fun s => .ok (ofSeverity s)
  | .int n => ofNumber n
  | .bool b => ofNumber (if b then 1 else 0)
  | _ => .error .unfit

end Level

-- `source` is the module whose code made the record, `logger` the logger's name.
structure Record where
  level : Level
  source : String
  logger : Value
  message : String

inductive Form where
  | rich
  | json
  | structured
  | console
  deriving DecidableEq, Repr

def Form.ofValue : Value → Form
  | .text "rich" => rich
  | .text "json" => json
  | .text "structured" => structured
  | _ => console

-- A record that the terminal lays out does not go to the error stream.
inductive Written where
  | text (s : String)
  | entry (j : Json)
  | plain (r : Record) (stamped : Bool)

namespace Record

def levelColumn (r : Record) : String :=
  r.level.name ++ String.ofList (List.replicate (8 - r.level.name.length) ' ')

def toJson (r : Record) : Json :=
  .object [("level", .text r.level.name), ("module", .ofValue r.logger), ("message", .text r.message)]

-- `time` and `place` stand for when and where the record was made.
def written (r : Record) (time place : String) (form : Form) (stamped : Bool) : Written :=
  let stamp := if stamped then time ++ " " else ""
  match form with
  | .rich => .plain r stamped
  | .json => .entry r.toJson
  | .structured =>
    .text (stamp ++ r.levelColumn ++ " " ++ r.source ++ ":" ++ place ++ " | " ++ r.message ++ "\n")
  | .console => .text (stamp ++ r.levelColumn ++ " | " ++ r.source ++ " | " ++ r.message ++ "\n")

def line (r : Record) : String := r.toJson.render ++ "\n"

end Record

end DaoMapper.Log
