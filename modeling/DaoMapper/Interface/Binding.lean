import DaoMapper.Interface.Hierarchy

-- How the arguments of a call reach the parameters of a function.
namespace DaoMapper.Interface

structure Slot (α : Type) where
  name : String
  kind : ParameterKind
  fallback : Option α

namespace Slot

variable {α : Type}

def takesPosition (s : Slot α) : Bool := s.kind = .positional || s.kind = .positionalOnly

def takesKeyword (s : Slot α) : Bool := s.kind = .positional || s.kind = .keywordOnly

def absorbs (slots : List (Slot α)) (kind : ParameterKind) : Bool := slots.any (·.kind = kind)

def positionsFit (slots : List (Slot α)) (arguments : List α) : Bool :=
  arguments.length ≤ (slots.filter takesPosition).length || absorbs slots .variadic

def byPosition (slots : List (Slot α)) (arguments : List α) : List (String × α) :=
  ((slots.filter takesPosition).map (·.name)).zip arguments

def keywordFits (slots : List (Slot α)) (bound : List (String × α)) (keyword : String) : Bool :=
  if slots.any fun s => s.takesKeyword && s.name == keyword then !bound.any (·.1 == keyword)
  else absorbs slots .keywords

def single (s : Slot α) : Bool := s.takesPosition || s.takesKeyword

def valueOf? (s : Slot α) (bound keywords : List (String × α)) : Option α :=
  let given := (bound.find? (·.1 == s.name)).map (·.2)
  let keyword := if s.takesKeyword then (keywords.find? (·.1 == s.name)).map (·.2) else none
  (given.or keyword).or s.fallback

def bind? (slots : List (Slot α)) (arguments : List α) (keywords : List (String × α)) :
    Option (List (String × α)) :=
  let bound := byPosition slots arguments
  if positionsFit slots arguments && keywords.all fun k => keywordFits slots bound k.1 then
    (slots.filter single).mapM fun s => (s.valueOf? bound keywords).map (s.name, ·)
  else none

end Slot

def FunctionDecl.slots {α : Type} (f : FunctionDecl) (standIn : α) : List (Slot α) :=
  f.parameters.map fun p => ⟨p.name, p.kind, p.default?.map fun _ => standIn⟩

end DaoMapper.Interface
