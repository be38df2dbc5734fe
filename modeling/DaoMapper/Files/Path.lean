import DaoMapper.Text.Word

-- Texts that name files, apart from any files there are.
namespace DaoMapper.Files

-- `slashes` are those that a path from the root starts with, one or two; a path
-- without any starts where one is. Steps up stay among the parts.
structure Path where
  slashes : Nat
  parts : List String
  deriving DecidableEq, Repr

namespace Path

def ofText (s : String) : Path :=
  let text := s.toList
  let count := (text.takeWhile (· = '/')).length
  let parts := (Text.splitAt '/' text).filter fun part => !part.isEmpty && part ≠ ['.']
  ⟨if count = 2 then 2 else min count 1, parts.map String.ofList⟩

def here : Path := ⟨0, []⟩

def text (p : Path) : String :=
  if p.slashes = 0 && p.parts.isEmpty then "."
  else String.ofList (List.replicate p.slashes '/') ++ "/".intercalate p.parts

def name (p : Path) : String := p.parts.getLast?.getD ""

def suffix (p : Path) : String :=
  let reversed := p.name.toList.reverse
  let ending := (reversed.takeWhile (· ≠ '.')).reverse
  let before := (reversed.dropWhile (· ≠ '.')).drop 1
  if ending.isEmpty || before.isEmpty then "" else String.ofList ('.' :: ending)

def parent (p : Path) : Path := ⟨p.slashes, p.parts.dropLast⟩

def join (p : Path) (name : String) : Path := ⟨p.slashes, p.parts ++ [name]⟩

def absolute (start : List String) (p : Path) : Path :=
  if p.slashes = 0 then ⟨1, start ++ p.parts⟩ else p

end Path

end DaoMapper.Files
