import DaoMapper.Problem

namespace DaoMapper.Settings

-- Only `invalid` is said in words; the others are operations that a value does not have.
inductive Fault where
  | invalid (component reason : String)
  | unfit
  | lacksOperation
  | wrongShape
  deriving DecidableEq, Repr

def Fault.problem? : Fault → Option Problem
  | invalid component reason => some (.configuration (.text component) (.text reason))
  | _ => none

end DaoMapper.Settings
