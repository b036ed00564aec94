/-!
# Binary64 numbers

The numbers of the 64-bit binary floating-point format as exact values, and the nearest one to a
quotient or to a decimal. Each number has one representation, so that equality is identity: the two
zeros differ, and there is one not-a-number.
-/

namespace Sidebar

/-- A finite magnitude of the format: `significand * 2 ^ scale`, counted in units of `2 ^ -1074`. -/
structure Magnitude where
  significand : Nat
  scale : Nat
  canonical : significand < Nat.pow 2 53 ∧ scale ≤ 2045 ∧ (scale = 0 ∨ Nat.pow 2 52 ≤ significand)
deriving DecidableEq

inductive Binary64 where
  | finite (negative : Bool) (magnitude : Magnitude)
  | infinite (negative : Bool)
  | nan
deriving DecidableEq

namespace Magnitude

def zero : Magnitude := ⟨0, 0, by decide⟩

/-- The magnitude as a whole number of units of `2 ^ -1074`. -/
def units (m : Magnitude) : Nat := m.significand * Nat.pow 2 m.scale

end Magnitude

/-- The whole number nearest to a quotient; of two that are equally near, the even one. -/
def roundHalfEven (num den : Nat) : Nat :=
  let below := num / den
  let rest := num % den
  if 2 * rest < den || (2 * rest = den && below % 2 = 0) then below else below + 1

namespace Binary64

/-- The number with these parts, infinite when the format has no such magnitude. -/
def ofParts (negative : Bool) (significand scale : Nat) : Binary64 :=
  if h : significand < Nat.pow 2 53 ∧ scale ≤ 2045 ∧ (scale = 0 ∨ Nat.pow 2 52 ≤ significand) then
    .finite negative ⟨significand, scale, h⟩
  else .infinite negative

/-- The number nearest to `num / den` units of `2 ^ -1074`. The scale leaves 53 binary digits, or
fewer at the bottom of the range, and a carry out of them moves to the next scale. -/
def ofUnits (negative : Bool) (num den : Nat) : Binary64 :=
  let scale := (num / den).log2 - 52
  let significand := roundHalfEven num (den * Nat.pow 2 scale)
  if significand = Nat.pow 2 53 then ofParts negative (Nat.pow 2 52) (scale + 1)
  else ofParts negative significand scale

/-- The number nearest to `digits * 10 ^ exponent`. From `10 ^ 400` on the answer is infinite, and
below half of the least positive number it is zero, so that no power is formed for a large
exponent. -/
def ofDecimal (negative : Bool) (digits : Nat) (exponent : Int) : Binary64 :=
  if digits = 0 then .finite negative .zero
  else if 400 ≤ exponent then .infinite negative
  else if digits.log2 + 1 + 3 * exponent < -1075 then .finite negative .zero
  else if 0 ≤ exponent then ofUnits negative (digits * Nat.pow 10 exponent.toNat * Nat.pow 2 1074) 1
  else ofUnits negative (digits * Nat.pow 2 1074) (Nat.pow 10 (-exponent).toNat)

/-- Whether the number is one of the two zeros. -/
def isZero : Binary64 → Bool
  | .finite _ m => m.significand = 0
  | _ => false

end Binary64

end Sidebar
