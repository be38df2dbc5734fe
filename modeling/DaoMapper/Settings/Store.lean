import DaoMapper.Settings.Discovery

-- Settings that were read, kept so that a file is read once.
namespace DaoMapper.Settings

open Files (Path Tree)

structure Made where
  number : Nat
  config : Config

-- What was used last comes first; `count` tells how many settings were made so far.
structure Store where
  kept : List (String × Made)
  count : Nat

namespace Store

def capacity : Nat := 32

def empty : Store := ⟨[], 0⟩

def make (s : Store) (c : Config) : Made × Store := (⟨s.count, c⟩, { s with count := s.count + 1 })

def get? (s : Store) (path : String) : Option Made := (s.kept.find? (·.1 == path)).map (·.2)

-- At the front; beyond the capacity what was not used for longest is dropped.
def keep (s : Store) (path : String) (m : Made) : Store :=
  { s with kept := ((path, m) :: s.kept.filter (·.1 != path)).take capacity }

def clear (s : Store) : Store := { s with kept := [] }

abbrev Answer := List Log.Event × Except LoadFault Made × Store

section

variable [Yaml.Library]

-- A failure leaves nothing.
def fetch (s : Store) (env : Environment) (tree : Tree) (p : Path) : Answer :=
  match s.get? p.text with
  | some m => ([], .ok m, s.keep p.text m)
  | none =>
    match readConfig env tree p with
    | (events, .error f) => (events, .error f, s)
    | (events, .ok c) => let (m, s) := s.make c; (events, .ok m, s.keep p.text m)

def loadFile (s : Store) (env : Environment) (tree : Tree) (asked : Option Path) : Answer :=
  match locate env tree asked with
  | (events, .error f) => (events, .error f, s)
  | (events, .ok p) => let r := s.fetch env tree (p.absolute tree.current); (events ++ r.1, r.2)

def load (s : Store) (env : Environment) (tree : Tree) (asked : Option Path) : Answer :=
  match s.loadFile env tree asked with
  | (events, .error f, s) =>
    if f.isMissing && asked.isNone then
      let (m, s) := s.make .default
      (events ++ [⟨.debug, loggerName, "No configuration file found, using defaults"⟩], .ok m, s)
    else (events, .error f, s)
  | r => r

def readFresh (s : Store) (env : Environment) (tree : Tree) (p : Path) : Answer :=
  match readConfig env tree p with
  | (events, .error f) => (events, .error f, s)
  | (events, .ok c) => let (m, s) := s.make c; (events, .ok m, s)

end

end Store

end DaoMapper.Settings
