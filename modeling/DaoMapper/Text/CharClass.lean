-- Character classes given by their boundaries, and runs of a case map.
namespace DaoMapper.Text

-- The ascending code points at which membership changes; the first one enters
-- the class, so a character belongs iff an odd number of them do not exceed it.
structure CharClass where
  bounds : List Nat

def CharClass.has (k : CharClass) (c : Char) : Bool :=
  (k.bounds.takeWhile (· ≤ c.toNat)).length % 2 = 1

-- Every `step`-th code point from `first` to `last` moves by `shift`.
structure CaseRun where
  first : Nat
  last : Nat
  step : Nat
  shift : Int

def CaseRun.covers (r : CaseRun) (n : Nat) : Bool :=
  r.first ≤ n && n ≤ r.last && (n - r.first) % r.step == 0

def CaseRun.move (r : CaseRun) (n : Nat) : Nat := (n + r.shift).toNat

end DaoMapper.Text
