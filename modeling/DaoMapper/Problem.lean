import DaoMapper.Value

-- What can go wrong, by cause, and the sentence that reports it.
namespace DaoMapper

inductive SkipKind where
  | any
  | duplicateRole
  | wrongRoleType
  | noRole
  | hidesName
  deriving DecidableEq, Repr

inductive Problem where
  | general (arguments : List Value)
  | configuration (component reason : Value)
  | validation (field constraint value : Value)
  | scan (mapper reason : Value)
  | skip (kind : SkipKind) (location message : Value)
  deriving Repr

inductive ProblemKind where
  | general
  | configuration
  | validation
  | scan
  | skip (kind : SkipKind)
  deriving DecidableEq, Repr

namespace Problem

def ofArguments? : ProblemKind → List Value → Option Problem
  | .general, arguments => some (.general arguments)
  | .configuration, [component, reason] => some (.configuration component reason)
  | .validation, [field, constraint] => some (.validation field constraint .null)
  | .validation, [field, constraint, value] => some (.validation field constraint value)
  | .scan, [mapper, reason] => some (.scan mapper reason)
  | .skip kind, [location, message] => some (.skip kind location message)
  | _, _ => none

def kind : Problem → ProblemKind
  | general _ => .general
  | configuration .. => .configuration
  | validation .. => .validation
  | scan .. => .scan
  | skip kind .. => .skip kind

def message : Problem → String
  | general [] => ""
  | general [one] => one.plain
  | general many => (Value.tuple many).shown
  | configuration component reason =>
    "Configuration error in '" ++ component.plain ++ "': " ++ reason.plain
  | validation field constraint value =>
    let got := match value with
      | .null => ""
      | v => " (got " ++ v.shown ++ ")"
    "Validation failed for '" ++ field.plain ++ "': " ++ constraint.plain ++ got
  | scan mapper reason => "Cannot scan mapper '" ++ mapper.plain ++ "': " ++ reason.plain
  | skip _ location message => location.plain ++ ": " ++ message.plain

def skips : Problem → Bool
  | skip .. => true
  | _ => false

def parts : Problem → List (String × Value)
  | general _ => []
  | configuration component reason => [("component", component), ("reason", reason)]
  | validation field constraint value => [("field", field), ("constraint", constraint), ("value", value)]
  | scan mapper reason => [("mapper", mapper), ("reason", reason)]
  | skip _ location message => [("location", location), ("message", message)]

end Problem

end DaoMapper
