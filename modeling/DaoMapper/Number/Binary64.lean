-- Binary floating point numbers with a 53-bit significand, held exactly.
namespace DaoMapper.Number

def twoTo (k : Nat) : Nat := Nat.pow 2 k

def tenTo (k : Nat) : Nat := Nat.pow 10 k

-- A finite value is `significand * 2 ^ scale`. Values made here have
-- `significand < 2 ^ 53` and the least scale not below -1074 that allows it.
inductive Binary64 where
  | undefined
  | infinite (negative : Bool)
  | finite (negative : Bool) (significand : Nat) (scale : Int)
  deriving DecidableEq, Repr, Inhabited

namespace Binary64

def leastScale : Int := -1074

def greatestScale : Int := 971

def zero (negative : Bool) : Binary64 := .finite negative 0 leastScale

def shifted (numerator denominator : Nat) (scale : Int) : Nat × Nat :=
  if 0 ≤ scale then (numerator, denominator * twoTo scale.toNat)
  else (numerator * twoTo (-scale).toNat, denominator)

def roundDiv (n d : Nat) : Nat :=
  let q := n / d
  let twice := 2 * (n % d)
  if twice < d then q else if d < twice then q + 1 else if q % 2 = 0 then q else q + 1

def ofRatio (negative : Bool) (numerator denominator : Nat) : Binary64 :=
  if numerator = 0 then zero negative
  else
    let guess : Int := (Nat.log2 numerator : Int) - Nat.log2 denominator - 52
    let parts := shifted numerator denominator guess
    let fitted := if parts.1 / parts.2 < twoTo 52 then guess - 1 else guess
    let scale := max fitted leastScale
    let (n, d) := shifted numerator denominator scale
    let m := roundDiv n d
    let (m, scale) := if m = twoTo 53 then (twoTo 52, scale + 1) else (m, scale)
    if greatestScale < scale then .infinite negative else .finite negative m scale

-- `digits * 10 ^ exponent`. Far outside the range the power is not computed.
def ofDecimal (negative : Bool) (digits : Nat) (exponent : Int) : Binary64 :=
  if digits = 0 then zero negative
  else
    let places : Int := (Nat.log2 digits : Int) * 30103 / 100000 + exponent
    if 400 < places then .infinite negative
    else if places < -400 then zero negative
    else if 0 ≤ exponent then ofRatio negative (digits * tenTo exponent.toNat) 1
    else ofRatio negative digits (tenTo (-exponent).toNat)

def ofNat (n : Nat) : Binary64 := ofRatio false n 1

def ofInt (n : Int) : Binary64 := ofRatio (n < 0) n.natAbs 1

def neg : Binary64 → Binary64
  | undefined => undefined
  | infinite s => infinite (!s)
  | finite s m q => finite (!s) m q

def isZero : Binary64 → Bool
  | finite _ 0 _ => true
  | _ => false

def units (negative : Bool) (m : Nat) (q : Int) : Int :=
  let size : Int := (m * twoTo (q - leastScale).toNat : Nat)
  if negative then -size else size

def add : Binary64 → Binary64 → Binary64
  | undefined, _ => undefined
  | _, undefined => undefined
  | infinite s, infinite t => if s = t then infinite s else undefined
  | infinite s, _ => infinite s
  | _, infinite t => infinite t
  | finite s m q, finite t n p =>
    let sum := units s m q + units t n p
    if sum = 0 then zero (s && t) else ofRatio (sum < 0) sum.natAbs (twoTo 1074)

def mulNat (x : Binary64) (k : Nat) : Binary64 :=
  match x, ofNat k with
  | finite s m q, finite _ n p =>
    let scale := q + p
    if 0 ≤ scale then ofRatio s (m * n * twoTo scale.toNat) 1 else ofRatio s (m * n) (twoTo (-scale).toNat)
  | infinite s, finite _ n _ => if n = 0 then undefined else infinite s
  | finite s m _, infinite _ => if m = 0 then undefined else infinite s
  | infinite s, infinite _ => infinite s
  | _, _ => undefined

def lt : Binary64 → Binary64 → Bool
  | undefined, _ => false
  | _, undefined => false
  | infinite s, infinite t => s && !t
  | infinite s, _ => s
  | _, infinite t => !t
  | finite s m q, finite t n p => units s m q < units t n p

def toInt? : Binary64 → Option Int
  | finite s m q =>
    let size? : Option Nat :=
      if 0 ≤ q then some (m * twoTo q.toNat)
      else if m % twoTo (-q).toNat = 0 then some (m / twoTo (-q).toNat) else none
    size?.map fun n => if s then -(n : Int) else n
  | _ => none

end Binary64

end DaoMapper.Number
