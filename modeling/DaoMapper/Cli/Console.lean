import DaoMapper.Log.Record

-- The library that prints on the terminal: it is somebody else's code.
namespace DaoMapper.Cli

-- To print may raise an exception, given by its kind. A text or a table may have marks for
-- styles in it; source text is shown in colours on a terminal, and as it is elsewhere.
-- Records in the form for a terminal go to the standard output.
class Console where
  isTerminal : Bool
  markup : String → Except String String
  table : List (List String) → Except String String
  highlight : String → Except String String
  echo : String → Except String Unit
  logged : Log.Record → Bool → String

end DaoMapper.Cli
