import DaoMapper.Value

-- Which dates and times of day there are.
namespace DaoMapper

def isLeap (year : Nat) : Bool := year % 4 = 0 && (year % 100 ≠ 0 || year % 400 = 0)

def daysIn (year month : Nat) : Nat :=
  if month = 2 then (if isLeap year then 29 else 28)
  else if month = 4 || month = 6 || month = 9 || month = 11 then 30
  else 31

def Date.isValid (d : Date) : Bool :=
  1 ≤ d.year && d.year ≤ 9999 && 1 ≤ d.month && d.month ≤ 12 && 1 ≤ d.day && d.day ≤ daysIn d.year d.month

def Clock.isValid (t : Clock) : Bool :=
  t.hour < 24 && t.minute < 60 && t.second < 60 && t.micro < 1000000 &&
    t.offset.all fun seconds => seconds.natAbs < 86400

-- What is finer is cut off.
def microseconds (digits : List Char) : Nat :=
  Number.natOfDigits (digits.take 6 ++ Number.zeros (6 - digits.length))

end DaoMapper
