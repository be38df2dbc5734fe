import DaoMapper.Number.Binary64
import DaoMapper.Text.Case

-- Decimal text of floating point numbers: reading, and the shortest form that
-- reads back.
namespace DaoMapper.Number

def digitValue? (c : Char) : Option Nat :=
  if '0' ≤ c ∧ c ≤ '9' then some (c.toNat - 48) else none

def isDigit (c : Char) : Bool := (digitValue? c).isSome

def natOfDigits (digits : List Char) : Nat :=
  digits.foldl (fun n c => 10 * n + (digitValue? c).getD 0) 0

-- Single underscores are left out; `after` tells whether a digit precedes.
def digitRun (after : Bool) : List Char → List Char × List Char
  | [] => ([], [])
  | c :: rest =>
    if isDigit c then let run := digitRun true rest; (c :: run.1, run.2)
    else if c == '_' && after && rest.head?.any isDigit then digitRun false rest
    else ([], c :: rest)

def signOf : List Char → Bool × List Char
  | '-' :: rest => (true, rest)
  | '+' :: rest => (false, rest)
  | text => (false, text)

def exponentOf? : List Char → Option Int
  | [] => some 0
  | e :: rest =>
    if e = 'e' ∨ e = 'E' then
      let (negative, digits) := signOf rest
      match digitRun false digits with
      | ([], _) => none
      | (run, []) => let n : Int := natOfDigits run; some (if negative then -n else n)
      | _ => none
    else none

def readMagnitude? (negative : Bool) (text : List Char) : Option Binary64 :=
  let word := String.ofList (Text.lower text)
  if word = "inf" ∨ word = "infinity" then some (.infinite negative)
  else if word = "nan" then some .undefined
  else
    let (whole, rest) := digitRun false text
    let (fraction, rest) := match rest with
      | '.' :: more => digitRun false more
      | _ => ([], rest)
    if whole.isEmpty && fraction.isEmpty then none
    else (exponentOf? rest).map fun e =>
      Binary64.ofDecimal negative (natOfDigits (whole ++ fraction)) (e - fraction.length)

-- Blanks around a number do not count.
def readDecimal? (s : String) : Option Binary64 :=
  let (negative, text) := signOf (Text.trim s.toList)
  readMagnitude? negative text

-- `digits * 10 ^ exponent`
structure Decimal where
  digits : Nat
  exponent : Int
  deriving DecidableEq, Repr

def compareScaled (n : Nat) (q : Int) (d : Nat) (e : Int) : Ordering :=
  compare (n * twoTo q.toNat * tenTo (-e).toNat) (d * tenTo e.toNat * twoTo (-q).toNat)

-- Whether `x` rounds to `m * 2 ^ q`: it lies between the midpoints to the two
-- neighbours, the midpoints themselves belonging to an even significand.
def readsBack (m : Nat) (q : Int) (x : Decimal) : Bool :=
  let narrow := m = twoTo 52 && Binary64.leastScale < q
  let low := compareScaled (4 * m - (if narrow then 1 else 2)) (q - 2) x.digits x.exponent
  let high := compareScaled (4 * m + 2) (q - 2) x.digits x.exponent
  if m % 2 = 0 then low != .gt && high != .lt else low == .lt && high == .gt

def floorScaled (m : Nat) (q e : Int) : Nat :=
  (m * twoTo q.toNat * tenTo (-e).toNat) / (tenTo e.toNat * twoTo (-q).toNat)

-- The count of digits before the point, not positive for small values.
def magnitude (m : Nat) (q : Int) : Int :=
  let guess : Int := ((Nat.log2 m : Int) + q) * 30103 / 100000
  if compareScaled m q 1 guess == .lt then guess
  else if compareScaled m q 1 (guess + 1) == .lt then guess + 1
  else guess + 2

def nearestWith (m : Nat) (q : Int) (top : Int) (count : Nat) : Option Decimal :=
  let e := top - count
  let below : Decimal := ⟨floorScaled m q e, e⟩
  let above : Decimal := ⟨below.digits + 1, e⟩
  match readsBack m q below, readsBack m q above with
  | false, false => none
  | true, false => some below
  | false, true => some above
  | true, true =>
    match compareScaled (2 * m) q (2 * below.digits + 1) e with
    | .lt => some below
    | .gt => some above
    | .eq => some (if below.digits % 2 = 0 then below else above)

def stripZeros (fuel : Nat) (x : Decimal) : Decimal :=
  match fuel with
  | 0 => x
  | fuel + 1 => if x.digits % 10 = 0 && x.digits != 0 then stripZeros fuel ⟨x.digits / 10, x.exponent + 1⟩ else x

def shortest (m : Nat) (q : Int) : Decimal :=
  let top := magnitude m q
  match (List.range 17).findSome? (fun i => nearestWith m q top (i + 1)) with
  | some x => stripZeros 20 x
  | none => ⟨floorScaled m q (top - 17), top - 17⟩

def natDigits (n : Nat) : List Char := Nat.toDigits 10 n

def zeros (n : Nat) : List Char := List.replicate n '0'

-- Positional from a ten thousandth up to 10 ^ 16, otherwise with a signed
-- exponent of at least two digits; a whole number keeps one place.
def layout (x : Decimal) : List Char :=
  let digits := natDigits x.digits
  let point : Int := x.exponent + digits.length
  if point ≤ -4 ∨ 16 < point then
    let exponent := point - 1
    let power := natDigits exponent.natAbs
    let body := match digits with
      | [d] => [d]
      | d :: more => d :: '.' :: more
      | [] => []
    body ++ 'e' :: (if exponent < 0 then '-' else '+') :: (if power.length < 2 then '0' :: power else power)
  else if point ≤ 0 then '0' :: '.' :: zeros (-point).toNat ++ digits
  else if digits.length ≤ point.toNat then digits ++ zeros (point.toNat - digits.length) ++ ['.', '0']
  else digits.take point.toNat ++ '.' :: digits.drop point.toNat

def Binary64.magnitudeText (m : Nat) (q : Int) : List Char :=
  if m = 0 then ['0', '.', '0'] else layout (shortest m q)

def Binary64.text : Binary64 → String
  | undefined => "nan"
  | infinite negative => if negative then "-inf" else "inf"
  | finite negative m q =>
    String.ofList (if negative then '-' :: magnitudeText m q else magnitudeText m q)

end DaoMapper.Number
