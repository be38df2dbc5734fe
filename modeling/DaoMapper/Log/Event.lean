-- Records of what was done, by the part of the program that did it.
namespace DaoMapper.Log

inductive Severity where
  | trace
  | debug
  | info
  | success
  | warning
  | error
  | critical
  deriving DecidableEq, Repr

namespace Severity

def all : List Severity := [trace, debug, info, success, warning, error, critical]

def rank : Severity → Nat
  | trace => 5
  | debug => 10
  | info => 20
  | success => 25
  | warning => 30
  | error => 40
  | critical => 50

def name : Severity → String
  | trace => "TRACE"
  | debug => "DEBUG"
  | info => "INFO"
  | success => "SUCCESS"
  | warning => "WARNING"
  | error => "ERROR"
  | critical => "CRITICAL"

def ofName? (name : String) : Option Severity := all.find? (·.name == name)

end Severity

structure Event where
  severity : Severity
  logger : String
  message : String
  deriving DecidableEq, Repr

def Event.atLeast (least : Severity) (events : List Event) : List Event :=
  events.filter fun e => least.rank ≤ e.severity.rank

end DaoMapper.Log
