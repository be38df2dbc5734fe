-- Bytes as text of 64 different characters, each for six bits.
namespace DaoMapper.Yaml

def sixBits? (c : Char) : Option Nat :=
  if 'A' ≤ c && c ≤ 'Z' then some (c.toNat - 65)
  else if 'a' ≤ c && c ≤ 'z' then some (c.toNat - 71)
  else if '0' ≤ c && c ≤ '9' then some (c.toNat + 4)
  else if c = '+' then some 62
  else if c = '/' then some 63
  else none

def sixBitChar (n : Nat) : Char :=
  if n < 26 then Char.ofNat (n + 65)
  else if n < 52 then Char.ofNat (n + 71)
  else if n < 62 then Char.ofNat (n - 4)
  else if n = 62 then '+' else '/'

-- The bytes of a text, whose other characters do not count. `place` tells how many
-- characters of a group of four were read, `carry` what bits of them are left, and
-- `pads` how many fillers came since. Enough fillers end the text.
def decodeBytes (place carry pads : Nat) : List Char → Option (List UInt8)
  | [] => if place = 0 then some [] else none
  | c :: rest =>
    if c = '=' then
      if place < 2 then decodeBytes place carry pads rest
      else if 4 ≤ place + pads + 1 then some []
      else decodeBytes place carry (pads + 1) rest
    else match sixBits? c with
      | none => decodeBytes place carry pads rest
      | some v =>
        match place with
        | 0 => decodeBytes 1 v 0 rest
        | 1 => (decodeBytes 2 (v % 16) 0 rest).map (UInt8.ofNat (carry * 4 + v / 16) :: ·)
        | 2 => (decodeBytes 3 (v % 4) 0 rest).map (UInt8.ofNat (carry * 16 + v / 4) :: ·)
        | _ => (decodeBytes 0 0 0 rest).map (UInt8.ofNat (carry * 64 + v) :: ·)

def encodeBytes : List UInt8 → List Char
  | a :: b :: c :: rest =>
    let n := a.toNat * 65536 + b.toNat * 256 + c.toNat
    sixBitChar (n / 262144) :: sixBitChar (n / 4096 % 64) :: sixBitChar (n / 64 % 64) ::
      sixBitChar (n % 64) :: encodeBytes rest
  | [a, b] =>
    let n := a.toNat * 1024 + b.toNat * 4
    [sixBitChar (n / 4096), sixBitChar (n / 64 % 64), sixBitChar (n % 64), '=']
  | [a] => [sixBitChar (a.toNat / 4), sixBitChar (a.toNat % 4 * 16), '=', '=']
  | [] => []

def encodedLinesFor : Nat → List UInt8 → List Char
  | 0, _ => []
  | fuel + 1, bytes =>
    if bytes.isEmpty then []
    else encodeBytes (bytes.take 57) ++ '\n' :: encodedLinesFor fuel (bytes.drop 57)

def encodedLines (bytes : List UInt8) : List Char := encodedLinesFor bytes.length bytes

end DaoMapper.Yaml
