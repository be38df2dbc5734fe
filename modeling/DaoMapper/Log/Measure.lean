import DaoMapper.Value

-- How a value is laid out in a message: its width, alignment, sign and digits.
namespace DaoMapper.Log

open Number (natDigits natOfDigits isDigit)

inductive FillFault where
  | malformed
  | noName
  | noPosition
  | noPart
  | unfit
  deriving DecidableEq, Repr

def FillFault.kind : FillFault → String
  | malformed => "ValueError"
  | noName => "KeyError"
  | noPosition => "IndexError"
  | noPart => "AttributeError"
  | unfit => "TypeError"

structure Measure where
  fill : Option Char
  align : Option Char
  sign : Option Char
  plainZero : Bool
  marked : Bool
  zeros : Bool
  width : Nat
  grouping : Option Char
  precision : Option Nat
  kind : Option Char
  deriving Repr

namespace Measure

def isAlign (c : Char) : Bool := c = '<' || c = '>' || c = '^' || c = '='

def alignment (text : List Char) : Option Char × Option Char × List Char :=
  match text with
  | f :: a :: rest =>
    if isAlign a then (some f, some a, rest)
    else if isAlign f then (none, some f, a :: rest) else (none, none, text)
  | [a] => if isAlign a then (none, some a, []) else (none, none, text)
  | [] => (none, none, [])

def option (p : Char → Bool) (text : List Char) : Option Char × List Char :=
  match text with
  | c :: rest => if p c then (some c, rest) else (none, text)
  | [] => (none, [])

def number (text : List Char) : Option Nat × List Char :=
  match text.takeWhile isDigit with
  | [] => (none, text)
  | digits => (some (natOfDigits digits), text.dropWhile isDigit)

def greatest : Nat := 0xffffffff

def groupable (grouping kind : Option Char) : Bool :=
  match grouping, kind with
  | none, _ | _, none => true
  | some g, some k => ['d', 'e', 'E', 'f', 'F', 'g', 'G', '%'].contains k ||
      (g = '_' && ['b', 'o', 'x', 'X'].contains k)

def ofText (text : List Char) : Except FillFault Measure := do
  let (fill, align, rest) := alignment text
  let (sign, rest) := option (fun c => c = '+' || c = '-' || c = ' ') rest
  let (plainZero, rest) := option (· = 'z') rest
  let (marked, rest) := option (· = '#') rest
  let (zero, rest) := if fill.isNone then option (· = '0') rest else (none, rest)
  let (width, rest) := number rest
  let (grouping, rest) := option (fun c => c = ',' || c = '_') rest
  let (precision, rest) ← match rest with
    | '.' :: more =>
      match number more with
      | (some n, left) => pure (some n, left)
      | (none, _) => throw .malformed
    | _ => pure (none, rest)
  let kind ← match rest with
    | [] => pure none
    | [c] => pure (some c)
    | _ => throw .malformed
  if !groupable grouping kind || greatest < max (width.getD 0) (precision.getD 0) then throw .malformed
  return ⟨fill, align, sign, plainZero.isSome, marked.isSome, zero.isSome, width.getD 0, grouping, precision, kind⟩

def blanks (fill : Char) (n : Nat) : List Char := List.replicate n fill

-- `lead` stays in front of a filling that is inserted behind it.
def padded (m : Measure) (usual : Char) (lead body : List Char) : List Char :=
  let fill := m.fill.getD (if m.zeros then '0' else ' ')
  let missing := m.width - (lead.length + body.length)
  match m.align.getD usual with
  | '<' => lead ++ body ++ blanks fill missing
  | '^' => blanks fill (missing / 2) ++ lead ++ body ++ blanks fill (missing - missing / 2)
  | '=' => lead ++ blanks fill missing ++ body
  | _ => blanks fill missing ++ lead ++ body

def text (m : Measure) (s : List Char) : Except FillFault (List Char) :=
  if m.sign.isSome || m.plainZero || m.marked || m.grouping.isSome || m.align = some '=' ||
      !(m.kind.isNone || m.kind = some 's') then .error .malformed
  else .ok (m.padded '<' [] (s.take (m.precision.getD s.length)))

def signText (m : Measure) (negative : Bool) : List Char :=
  if negative then ['-'] else match m.sign with
    | some '-' | none => []
    | some c => [c]

-- From the last digit on; a separator always has something behind it.
def groupsBack (size : Nat) (separator : Char) : (fuel : Nat) → (places : Int) → List Char → List Char
  | 0, _, digits => digits
  | fuel + 1, places, digits =>
    let count := min size (max (max digits.length places.toNat) 1)
    let group := digits.take count ++ Number.zeros (count - digits.length)
    let left := digits.drop count
    if left.isEmpty && places ≤ count then group
    else group ++ separator :: groupsBack size separator fuel (places - count - 1) left

def grouped (size : Nat) (separator : Char) (places : Int) (digits : List Char) : List Char :=
  (groupsBack size separator (digits.length + places.toNat + 1) places digits.reverse).reverse

def figures (m : Measure) (lead : List Char) (size : Nat) (digits rest : List Char) : List Char :=
  let usual := if m.zeros && m.fill.isNone then '=' else '>'
  match m.grouping with
  | some separator =>
    let fillsUp := m.fill.getD (if m.zeros then '0' else ' ') = '0' && m.align.getD usual = '='
    let places : Int := if fillsUp then (m.width : Int) - (lead.length + rest.length : Nat) else 0
    m.padded usual lead ((if digits.isEmpty then [] else grouped size separator places digits) ++ rest)
  | none => m.padded usual lead (digits ++ rest)

def baseOf? : Option Char → Option (Nat × List Char × Nat)
  | none | some 'd' | some 'n' => some (10, [], 3)
  | some 'b' => some (2, ['0', 'b'], 4)
  | some 'o' => some (8, ['0', 'o'], 4)
  | some 'x' => some (16, ['0', 'x'], 4)
  | some 'X' => some (16, ['0', 'X'], 4)
  | _ => none

def floatKinds : List Char := ['e', 'E', 'f', 'F', 'g', 'G', '%']

def significant (m : Nat) (q : Int) (count : Nat) : List Char × Int :=
  if m = 0 then (Number.zeros count, 1)
  else
    let top := Number.magnitude m q
    let e := top - count
    let n := m * Number.twoTo q.toNat * Number.tenTo (-e).toNat
    let digits := Number.natDigits (Number.Binary64.roundDiv n (Number.tenTo e.toNat * Number.twoTo (-q).toNat))
    if count < digits.length then (digits.take count, top + 1) else (digits, top)

-- A half goes to the even side.
def fixed (significand : Nat) (scale : Int) (places : Nat) : List Char × List Char :=
  let (n, d) := Number.Binary64.shifted (significand * Number.tenTo places) 1 (-scale)
  let digits := Number.natDigits (Number.Binary64.roundDiv n d)
  let digits := Number.zeros (places + 1 - digits.length) ++ digits
  (digits.take (digits.length - places), digits.drop (digits.length - places))

def withoutZeros (digits : List Char) : List Char :=
  match (digits.reverse.dropWhile (· = '0')).reverse with
  | [] => digits.take 1
  | left => left

def power (exponent : Int) : List Char :=
  let digits := Number.natDigits exponent.natAbs
  'e' :: (if exponent < 0 then '-' else '+') :: Number.zeros (2 - digits.length) ++ digits

def pointed (keeps : Bool) (before behind : List Char) : List Char × List Char :=
  (before, if behind.isEmpty && !keeps then [] else '.' :: behind)

def scientific (keeps : Bool) (digits : List Char) (point : Int) : List Char × List Char :=
  let (before, behind) := pointed keeps (digits.take 1) (digits.drop 1)
  (before, behind ++ power (point - 1))

def positional (keeps wantsPlace : Bool) (digits : List Char) (point : Int) : List Char × List Char :=
  let digits := Number.zeros (1 - point).toNat ++ digits
  let point := (max point 1).toNat
  let behind := digits.drop point
  pointed keeps (digits.take point ++ Number.zeros (point - digits.length))
    (if behind.isEmpty && wantsPlace then ['0'] else behind)

def general (m : Measure) (digits : List Char) (point : Int) (count : Nat) (wantsPlace : Bool) :
    List Char × List Char :=
  let digits := if m.marked then digits else withoutZeros digits
  let limit : Int := if wantsPlace then (count : Int) - 1 else count
  if point ≤ -4 || limit < point then scientific m.marked digits point
  else positional m.marked wantsPlace digits point

def finite (m : Measure) (significand : Nat) (scale : Int) : List Char × List Char :=
  let count := max (m.precision.getD 6) 1
  match m.kind with
  | some 'f' | some 'F' | some '%' =>
    let (before, behind) := fixed significand scale (m.precision.getD 6)
    pointed m.marked before behind
  | some 'e' | some 'E' =>
    let (digits, point) := significant significand scale (m.precision.getD 6 + 1)
    scientific m.marked digits point
  | none =>
    match m.precision with
    | none =>
      let x := Number.shortest significand scale
      let digits := if significand = 0 then ['0'] else Number.natDigits x.digits
      let point : Int := if significand = 0 then 1 else x.exponent + digits.length
      if point ≤ -4 || 16 < point then scientific m.marked digits point else positional m.marked true digits point
    | some _ =>
      let (digits, point) := significant significand scale count
      m.general digits point count true
  | _ =>
    let (digits, point) := significant significand scale count
    m.general digits point count false

def isUpper (m : Measure) : Bool := m.kind = some 'E' || m.kind = some 'F' || m.kind = some 'G'

def floating (m : Measure) (x : Number.Binary64) : Except FillFault (List Char) :=
  if !(m.kind.elim true fun k => k = 'n' || floatKinds.contains k) then .error .malformed
  else
    let (negative, digits, rest) : Bool × List Char × List Char :=
      match if m.kind = some '%' then x.mulNat 100 else x with
      | .undefined => (false, [], ['n', 'a', 'n'])
      | .infinite negative => (negative, [], ['i', 'n', 'f'])
      | .finite negative significand scale =>
        let (digits, rest) := m.finite significand scale
        let isZero := (digits ++ rest.takeWhile (· ≠ 'e')).all fun c => c = '0' || c = '.'
        (negative && !(m.plainZero && isZero), digits, rest)
    let rest := if m.kind = some '%' then rest ++ ['%'] else rest
    .ok (m.figures (m.signText negative) 3 digits (if m.isUpper then rest.map Char.toUpper else rest))

def whole (m : Measure) (n : Int) : Except FillFault (List Char) :=
  match m.kind, baseOf? m.kind with
  | some 'c', _ =>
    if m.sign.isSome || m.plainZero || m.marked || m.precision.isSome || n < 0 || 0x10ffff < n then .error .malformed
    else .ok (m.figures [] 3 [] [Char.ofNat n.toNat])
  | _, some (base, mark, size) =>
    if m.precision.isSome || m.plainZero then .error .malformed
    else
      let lead := m.signText (n < 0) ++ if m.marked then mark else []
      let digits := Nat.toDigits base n.natAbs
      .ok (m.figures lead size (if m.kind = some 'X' then digits.map Char.toUpper else digits) [])
  | some k, none =>
    if floatKinds.contains k then m.floating (.ofInt n) else .error .malformed
  | none, none => .error .malformed

def apply (wish : List Char) (v : Value) : Except FillFault (List Char) :=
  if wish.isEmpty then .ok v.plain.toList
  else match v with
    | .text s => do (← ofText wish).text s.toList
    | .int n => do (← ofText wish).whole n
    | .bool b => do (← ofText wish).whole (if b then 1 else 0)
    | .float x => do (← ofText wish).floating x
    | _ => .error .unfit

end Measure

end DaoMapper.Log
