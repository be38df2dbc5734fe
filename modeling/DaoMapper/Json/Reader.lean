import DaoMapper.Json

-- JSON texts, read.
namespace DaoMapper.Json

def isBlank (c : Char) : Bool := c = ' ' || c = '\n' || c = '\t' || c = '\x0d'

def skipBlanks (text : List Char) : List Char := text.dropWhile isBlank

def hexValue (c : Char) : Nat :=
  if c ≤ '9' then c.toNat - 48 else if c ≤ 'F' then c.toNat - 55 else c.toNat - 87

def codeUnit (a b c d : Char) : Nat := [a, b, c, d].foldl (fun n x => 16 * n + hexValue x) 0

def isLeading (unit : Nat) : Bool := 0xd800 ≤ unit && unit < 0xdc00

def joinUnits (leading trailing : Nat) : Char :=
  Char.ofNat (0x10000 + (leading - 0xd800) * 0x400 + (trailing - 0xdc00))

def shortEscape : Char → Char
  | 'n' => '\n'
  | 't' => '\t'
  | 'r' => '\x0d'
  | 'b' => '\x08'
  | 'f' => '\x0c'
  | c => c

def textBody : List Char → Option (List Char × List Char)
  | [] => none
  | '\x22' :: rest => some ([], rest)
  | '\\' :: 'u' :: a :: b :: c :: d :: '\\' :: 'u' :: e :: f :: g :: h :: rest =>
    let unit := codeUnit a b c d
    if isLeading unit then
      (textBody rest).map fun r => (joinUnits unit (codeUnit e f g h) :: r.1, r.2)
    else (textBody ('\\' :: 'u' :: e :: f :: g :: h :: rest)).map fun r => (Char.ofNat unit :: r.1, r.2)
  | '\\' :: 'u' :: a :: b :: c :: d :: rest =>
    (textBody rest).map fun r => (Char.ofNat (codeUnit a b c d) :: r.1, r.2)
  | '\\' :: c :: rest => (textBody rest).map fun r => (shortEscape c :: r.1, r.2)
  | c :: rest => (textBody rest).map fun r => (c :: r.1, r.2)

def endsNumber (c : Char) : Bool := c = ',' || c = ']' || c = '\x7d' || isBlank c

def numberOf (text : List Char) : Option (Json × List Char) :=
  let word := text.takeWhile (!endsNumber ·)
  if word.isEmpty then none else some (.number (String.ofList word), text.drop word.length)

mutual

-- Every value inside another one is shorter, so the length is fuel enough.
def valueFor : Nat → List Char → Option (Json × List Char)
  | 0, _ => none
  | fuel + 1, input =>
    match skipBlanks input with
    | 'n' :: 'u' :: 'l' :: 'l' :: rest => some (.null, rest)
    | 't' :: 'r' :: 'u' :: 'e' :: rest => some (.bool true, rest)
    | 'f' :: 'a' :: 'l' :: 's' :: 'e' :: rest => some (.bool false, rest)
    | '\x22' :: rest => (textBody rest).map fun r => (.text (String.ofList r.1), r.2)
    | '[' :: rest =>
      match skipBlanks rest with
      | ']' :: left => some (.list [], left)
      | more => (itemsFor fuel more).map fun r => (.list r.1, r.2)
    | '\x7b' :: rest =>
      match skipBlanks rest with
      | '\x7d' :: left => some (.object [], left)
      | more => (fieldsFor fuel more).map fun r => (.object r.1, r.2)
    | other => numberOf other

def itemsFor : Nat → List Char → Option (List Json × List Char)
  | 0, _ => none
  | fuel + 1, input =>
    match valueFor fuel input with
    | none => none
    | some (j, rest) =>
      match skipBlanks rest with
      | ',' :: more => (itemsFor fuel more).map fun r => (j :: r.1, r.2)
      | ']' :: left => some ([j], left)
      | _ => none

def fieldsFor : Nat → List Char → Option (List (String × Json) × List Char)
  | 0, _ => none
  | fuel + 1, input =>
    match skipBlanks input with
    | '\x22' :: rest =>
      match textBody rest with
      | none => none
      | some (name, rest) =>
        match skipBlanks rest with
        | ':' :: rest =>
          match valueFor fuel rest with
          | none => none
          | some (j, rest) =>
            match skipBlanks rest with
            | ',' :: more => (fieldsFor fuel more).map fun r => ((String.ofList name, j) :: r.1, r.2)
            | '\x7d' :: left => some ([(String.ofList name, j)], left)
            | _ => none
        | _ => none
    | _ => none

end

def read? (s : String) : Option Json :=
  let input := s.toList
  (valueFor (input.length + 1) input).map (·.1)

end DaoMapper.Json
