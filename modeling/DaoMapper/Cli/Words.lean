-- The words of a command line: options, with and without a value, and the rest.
namespace DaoMapper.Cli

inductive Misuse where
  | noSuchOption (name : String)
  | noValue (name : String)
  | needlessValue (name : String)
  | noCommand
  | noSuchCommand (name : String)
  | noTarget
  | excess (words : List String)
  | notTarget (word : String)
  | notImportable (module message : String)
  | noMember (module qualname : String)
  | notClass (word : String)
  deriving DecidableEq, Repr

structure Switch where
  name : String
  letter : Option Char
  takesValue : Bool
  deriving DecidableEq, Repr

-- An option without a value is given with an empty one.
structure Words where
  given : List (String × String)
  rest : List String
  deriving DecidableEq, Repr

namespace Words

def has (w : Words) (name : String) : Bool := w.given.any (·.1 == name)

-- An option that is given again takes the place of the earlier one.
def value? (w : Words) (name : String) : Option String := w.given.reverse.lookup name

abbrev Taken := List (String × String) × Nat

def readLong (switches : List Switch) (word : List Char) (next : List String) : Except Misuse Taken :=
  let name := String.ofList (word.takeWhile (· ≠ '='))
  match switches.find? (·.name == name), word.dropWhile (· ≠ '='), next with
  | none, _, _ => .error (.noSuchOption name)
  | some s, [], next =>
    if !s.takesValue then .ok ([(name, "")], 0)
    else match next with
      | [] => .error (.noValue name)
      | value :: _ => .ok ([(name, value)], 1)
  | some s, _ :: value, _ =>
    if s.takesValue then .ok ([(name, String.ofList value)], 0) else .error (.needlessValue name)

-- A letter that takes a value takes those behind it, or else the next word.
def readLetters (switches : List Switch) (next : List String) : List Char → Except Misuse Taken
  | [] => .ok ([], 0)
  | c :: more =>
    match switches.find? (·.letter == some c) with
    | none => .error (.noSuchOption (String.ofList [c]))
    | some s =>
      if s.takesValue then
        match more, next with
        | [], [] => .error (.noValue s.name)
        | [], value :: _ => .ok ([(s.name, value)], 1)
        | _, _ => .ok ([(s.name, String.ofList more)], 0)
      else (readLetters switches next more).map fun r => ((s.name, "") :: r.1, r.2)

-- Two dashes end the options. Where they do not stand anywhere, so does the first
-- word that is none; a lone dash and an empty word are none.
def read (switches : List Switch) (anywhere : Bool) : List String → Except Misuse Words
  | [] => .ok ⟨[], []⟩
  | word :: next => do
    match word.toList with
    | ['-', '-'] => return ⟨[], next⟩
    | '-' :: c :: more =>
      let (given, taken) ← if c = '-' then readLong switches more next
        else readLetters switches next (c :: more)
      let w ← read switches anywhere (next.drop taken)
      return { w with given := given ++ w.given }
    | _ =>
      if !anywhere then return ⟨[], word :: next⟩
      let w ← read switches anywhere next
      return { w with rest := word :: w.rest }
termination_by words => words.length
decreasing_by
  all_goals simp only [List.length_drop, List.length_cons]
  all_goals omega

end Words

end DaoMapper.Cli
