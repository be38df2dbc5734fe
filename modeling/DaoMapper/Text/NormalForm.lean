import DaoMapper.Text.NormalTables

-- The normal form in which identifiers are compared: compatible characters are replaced,
-- marks are put in order, and what can be composed is.
namespace DaoMapper.Text

namespace Hangul

-- Syllables are composed of a leading letter, a vowel and maybe a trailing letter.
def firstSyllable : Nat := 0xAC00
def firstLeading : Nat := 0x1100
def firstVowel : Nat := 0x1161
def beforeTrailing : Nat := 0x11A7
def leadings : Nat := 19
def vowels : Nat := 21
def trailings : Nat := 28

def parts? (n : Nat) : Option (List Nat) :=
  let k := n - firstSyllable
  if firstSyllable ≤ n && k < leadings * vowels * trailings then
    let letters := [firstLeading + k / (vowels * trailings), firstVowel + k / trailings % vowels]
    some (if k % trailings = 0 then letters else letters ++ [beforeTrailing + k % trailings])
  else none

def compose? (a b : Nat) : Option Nat :=
  if firstLeading ≤ a && a < firstLeading + leadings && firstVowel ≤ b && b < firstVowel + vowels then
    some (firstSyllable + ((a - firstLeading) * vowels + (b - firstVowel)) * trailings)
  else if firstSyllable ≤ a && a < firstSyllable + leadings * vowels * trailings &&
      (a - firstSyllable) % trailings = 0 && beforeTrailing < b && b < beforeTrailing + trailings then
    some (a + (b - beforeTrailing))
  else none

end Hangul

def compatible? (n : Nat) : Option (List Nat) :=
  match compatibleRuns.find? (·.covers n) with
  | some r => some [r.move n]
  | none => ((Block.at? compatibleSingles n).map ([·])).or (Block.at? compatibleTexts n)

def composedParts (n : Nat) : Nat → List Nat
  | 0 => [n]
  | depth + 1 =>
    match Block.at? composed n with
    | some (base, mark) => composedParts base depth ++ [mark]
    | none => [n]

def decomposed (n : Nat) : List Nat :=
  ((compatible? n).or (Hangul.parts? n)).getD (composedParts n 3)

def markClass (n : Nat) : Nat :=
  ((markRuns.find? fun r => r.1 ≤ n && n ≤ r.2.1).map (·.2.2)).getD 0

-- A mark goes before those of a higher class; what is there is the latest first.
def putMark (n : Nat) : List Nat → List Nat
  | last :: earlier =>
    if markClass n ≠ 0 && markClass n < markClass last then last :: putMark n earlier else n :: last :: earlier
  | [] => [n]

def inMarkOrder (all : List Nat) : List Nat := (all.foldl (fun done n => putMark n done) []).reverse

def compose? (a b : Nat) : Option Nat :=
  (Hangul.compose? a b).or (composed.findSome? fun block => (block.values.idxOf? (a, b)).map (block.first + ·))

-- `marks` are those since the last character of class 0 that could not be composed with
-- it, the latest first; one of the same class in between keeps a mark from it.
def composeFrom (base : Nat) (marks : List Nat) : List Nat → List Nat
  | [] => base :: marks.reverse
  | n :: rest =>
    let free := match marks with
      | [] => true
      | last :: _ => markClass last < markClass n
    match if free then compose? base n else none with
    | some whole => composeFrom whole marks rest
    | none =>
      if markClass n = 0 then base :: marks.reverse ++ composeFrom n [] rest
      else composeFrom base (n :: marks) rest

def composeAll : List Nat → List Nat
  | [] => []
  | n :: rest => composeFrom n [] rest

def isAscii (name : String) : Bool := name.toList.all fun c => c.toNat < 128

-- Below 128 there is nothing to do.
def normal (name : String) : String :=
  if isAscii name then name
  else String.ofList ((composeAll (inMarkOrder (name.toList.flatMap fun c => decomposed c.toNat))).map Char.ofNat)

@[simp] theorem normal_ascii {name : String} (ascii : isAscii name = true) : normal name = name := by
  rw [normal, if_pos ascii]

end DaoMapper.Text
