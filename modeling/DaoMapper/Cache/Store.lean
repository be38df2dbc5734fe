-- What a cache holds: at most one value for a key, in order of insertion.
namespace DaoMapper.Cache

structure Store (κ ν : Type) where
  entries : List (κ × ν)

namespace Store

variable {κ ν : Type} [DecidableEq κ]

def empty : Store κ ν := ⟨[]⟩

def get? (s : Store κ ν) (key : κ) : Option ν := (s.entries.find? fun e => e.1 = key).map (·.2)

def contains (s : Store κ ν) (key : κ) : Bool := (s.get? key).isSome

def size (s : Store κ ν) : Nat := s.entries.length

def putEntry (entries : List (κ × ν)) (key : κ) (value : ν) : List (κ × ν) :=
  match entries with
  | [] => [(key, value)]
  | e :: rest => if e.1 = key then (key, value) :: rest else e :: putEntry rest key value

def put (s : Store κ ν) (key : κ) (value : ν) : Store κ ν := ⟨putEntry s.entries key value⟩

end Store

end DaoMapper.Cache
