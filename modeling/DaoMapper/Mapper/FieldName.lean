import DaoMapper.Text.Word

-- Names of fields, unique within one class.
namespace DaoMapper.Mapper

open Text

def cleanChar (c : Char) : Char := if isWordChar c || c == '_' then c else '_'

def sanitize (name : List Char) : List Char :=
  let cleaned := if name.isEmpty then "field".toList else name.map cleanChar
  let opened := if cleaned.head?.any isDigitChar then '_' :: cleaned else cleaned
  if isKeyword opened then opened ++ ['_'] else opened

def numbered (base : String) (n : Nat) : String := base ++ "_" ++ toString n

-- One more than there are names taken, so one of them is free.
def candidates (base : String) (taken : Nat) : List String :=
  base :: (List.range taken).map fun i => numbered base (i + 2)

def freeName (taken : List String) (base : String) : String :=
  ((candidates base taken.length).find? fun c => !taken.contains c).getD base

def uniqueField (taken : List String) (suggestion : String) : String :=
  freeName taken (String.ofList (sanitize suggestion.toList))

def uniqueFields (taken : List String) : List String → List String
  | [] => []
  | suggestion :: rest =>
    let name := uniqueField taken suggestion
    name :: uniqueFields (name :: taken) rest

end DaoMapper.Mapper
