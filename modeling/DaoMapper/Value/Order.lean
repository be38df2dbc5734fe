import DaoMapper.Value

-- Order of values: numbers by amount, texts by code points, points in time by when
-- they are, tuples by their items. Values of different kinds have none.
namespace DaoMapper.Value

def intBelowFloat (n : Int) : Number.Binary64 → Bool
  | .undefined => false
  | .infinite negative => !negative
  | .finite negative m q => n * Number.twoTo 1074 < Number.Binary64.units negative m q

def floatBelowInt (x : Number.Binary64) (n : Int) : Bool :=
  match x with
  | .undefined => false
  | .infinite negative => negative
  | .finite negative m q => Number.Binary64.units negative m q < n * Number.twoTo 1074

def integral? : Value → Option Int
  | .bool b => some (if b then 1 else 0)
  | .int n => some n
  | _ => none

def dateParts (d : Date) : List Nat := [d.year, d.month, d.day]

def clockMicros (t : Clock) : Int :=
  ((t.hour * 3600 + t.minute * 60 + t.second : Nat) - t.offset.getD 0) * 1000000 + t.micro

def dayNumber (d : Date) : Int :=
  let y : Int := if d.month ≤ 2 then d.year - 1 else d.year
  let m : Int := if d.month ≤ 2 then d.month + 9 else d.month - 3
  365 * y + y.fdiv 4 - y.fdiv 100 + y.fdiv 400 + (153 * m + 2).fdiv 5 + d.day

def momentMicros (d : Date) (t : Clock) : Int := dayNumber d * 86400000000 + clockMicros t

mutual

-- Whether one value comes before another, if the two can be ordered at all.
def below? : Value → Value → Option Bool
  | .text s, .text t => some (s < t)
  | .bytes s, .bytes t => some (s < t)
  | .date d, .date e => some (dateParts d < dateParts e)
  | .moment d t, .moment e u =>
    if t.offset.isSome = u.offset.isSome then some (momentMicros d t < momentMicros e u) else none
  | .clock t, .clock u =>
    if t.offset.isSome = u.offset.isSome then some (clockMicros t < clockMicros u) else none
  | .tuple xs, .tuple ys => belowAll? xs ys
  | a, b =>
    match integral? a, integral? b, floatBits a, floatBits b with
    | some n, some m, _, _ => some (n < m)
    | some n, none, _, some y => some (intBelowFloat n y)
    | none, some m, some x, _ => some (floatBelowInt x m)
    | none, none, some x, some y => some (x.lt y)
    | _, _, _, _ => none

def belowAll? : List Value → List Value → Option Bool
  | x :: xs, y :: ys => if same x y then belowAll? xs ys else below? x y
  | [], _ :: _ => some true
  | _, [] => some false

end

def orderable (values : List Value) : Bool :=
  values.length ≤ 1 || values.all fun a => values.all fun b => (below? a b).isSome

def sorted? (values : List Value) : Option (List Value) :=
  if orderable values then some (values.mergeSort fun a b => below? b a != some true) else none

end DaoMapper.Value
