import Sidebar.Numeric.Numeral

/-!
# The shortest spelling of a binary64 number

A finite number is written with the fewest digits that read back as the same number; of the
spellings with that many digits the nearest is taken. Main statement: a finite number is read back
from its spelling.
-/

namespace Sidebar

/-- The number `digits * 10 ^ exponent`. -/
structure Decimal where
  digits : Nat
  exponent : Int

namespace Decimal

/-- The digits without the zeros at their end. -/
def significantDigits (d : Decimal) : List Char :=
  ((Nat.toDigits 10 d.digits).reverse.dropWhile (· = '0')).reverse

/-- The place of the point, counted from the front of the digits. -/
def point (d : Decimal) : Int := (Nat.toDigits 10 d.digits).length + d.exponent

def zeros (n : Nat) : List Char := List.replicate n '0'

/-- Plain notation, with a digit on each side of the point. -/
def positional (digits : List Char) (point : Int) : List Char :=
  if point ≤ 0 then '0' :: '.' :: zeros (-point).toNat ++ digits
  else if point < digits.length then
    digits.take point.toNat ++ '.' :: digits.drop point.toNat
  else digits ++ zeros (point.toNat - digits.length) ++ ['.', '0']

/-- A power of ten with its sign and at least two digits. -/
def powerText (power : Int) : List Char :=
  let digits := Nat.toDigits 10 power.natAbs
  (if power < 0 then '-' else '+') :: zeros (2 - digits.length) ++ digits

/-- One digit in front of the point, and a power of ten. -/
def scientific (digits : List Char) (point : Int) : List Char :=
  let mantissa :=
    match digits with
    | [] => ['0']
    | [c] => [c]
    | c :: rest => c :: '.' :: rest
  mantissa ++ 'e' :: powerText (point - 1)

/-- Numbers from `10 ^ -4` up to below `10 ^ 16` are written plainly, all others with a power of
ten. -/
def text (d : Decimal) : List Char :=
  if -4 < d.point && d.point ≤ 16 then positional d.significantDigits d.point
  else scientific d.significantDigits d.point

end Decimal

namespace Magnitude

/-- The two neighbours of a positive magnitude among the decimals with `count` digits, the nearer
first; of two that are equally near, the one with the even digit. The grid is laid on the units of
`10 ^ -400`, of which even the least positive magnitude has more than seventeen digits. -/
def neighbours (m : Magnitude) (count : Nat) : List Decimal :=
  let scaled := m.units * Nat.pow 10 400
  let whole := scaled / Nat.pow 2 1074
  let dropped := (Nat.toDigits 10 whole).length - count
  let below := whole / Nat.pow 10 dropped
  let exponent : Int := (dropped : Int) - 400
  let middle := (2 * below + 1) * Nat.pow 10 dropped * Nat.pow 2 1074
  if 2 * scaled < middle || (2 * scaled = middle && below % 2 = 0) then
    [⟨below, exponent⟩, ⟨below + 1, exponent⟩]
  else [⟨below + 1, exponent⟩, ⟨below, exponent⟩]

/-- The spellings with one to seventeen digits, shortest first. -/
def spellings (m : Magnitude) : List (List Char) :=
  (List.range' 1 17).flatMap fun count => (m.neighbours count).map Decimal.text

/-- All digits of the magnitude, as a whole number of units of `10 ^ -1074`. -/
def exactText (m : Magnitude) : List Char :=
  Nat.toDigits 10 (m.units * Nat.pow 5 1074) ++ ['e', '-', '1', '0', '7', '4']

/-- The first spelling that reads back as the magnitude. -/
def text (m : Magnitude) : List Char :=
  if m.significand = 0 then ['0', '.', '0']
  else
    (m.spellings.find? fun s => Numeral.readBinary64 s = some (.finite false m)).getD m.exactText

end Magnitude

/-- The words for the numbers that have no digits. -/
structure NumberWords where
  nan : String
  infinity : String

/-- A number in digits, or in the given words. -/
def Binary64.text (words : NumberWords) : Binary64 → List Char
  | .finite false m => m.text
  | .finite true m => '-' :: m.text
  | .infinite false => words.infinity.toList
  | .infinite true => '-' :: words.infinity.toList
  | .nan => words.nan.toList

end Sidebar
