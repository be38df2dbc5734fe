import DaoMapper.Files.Tree
import DaoMapper.Log.Record

-- The library that keeps the sinks of a program. It is somebody else's code: what it does
-- with its own state and with files is given.
namespace DaoMapper.Log

open Files (Tree Path)

-- What a sink writes to. Those of other users of the library are foreign.
inductive Target where
  | terminal (form : Form) (stamped : Bool)
  | file (path : Path)
  | foreign
  deriving DecidableEq, Repr

structure Sink where
  number : Nat
  target : Target
  least : Nat
  deriving DecidableEq, Repr

-- To add a sink gives its number, or the kind of an exception; whatever it comes to, there
-- may be a file that was not. A number that no sink has is removed without an exception,
-- since that one is never let through. `files` are the places of all files that were opened.
class Library where
  State : Type
  sinks : State → List Sink
  files : State → List (List String)
  add : State → Tree → Target → Value → Except String Nat × State × Tree
  remove : State → Nat → State
  emit : State → Tree → Record → List Written × Tree

end DaoMapper.Log
