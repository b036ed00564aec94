import Sidebar.Numeric.Binary64

/-!
# Written numbers

The spelling of numbers: an optional minus sign, digits without superfluous leading zeros, and
optionally a fraction and a power of ten.
-/

namespace Sidebar

/-- A number as it is spelled. -/
structure Numeral where
  negative : Bool
  whole : List Char
  fraction : Option (List Char)
  exponent : Option Int

/-- The value of a row of decimal digits. -/
def decimalValue (digits : List Char) : Nat := Nat.ofDigitChars 10 digits 0

namespace Numeral

/-- Whether the number is spelled with neither a fraction nor a power of ten. -/
def isWhole (n : Numeral) : Bool := n.fraction.isNone && n.exponent.isNone

def toInt (n : Numeral) : Int :=
  if n.negative then -(decimalValue n.whole : Int) else decimalValue n.whole

/-- The nearest number of the binary format. -/
def toBinary64 (n : Numeral) : Binary64 :=
  let fraction := n.fraction.getD []
  Binary64.ofDecimal n.negative (decimalValue (n.whole ++ fraction))
    (n.exponent.getD 0 - fraction.length)

/-! ### Reading -/

def scanSign : List Char → Bool × List Char
  | '-' :: rest => (true, rest)
  | cs => (false, cs)

/-- The digits in front of the point: a zero alone, or a row that does not start with one. -/
def scanWhole : List Char → Option (List Char × List Char)
  | [] => none
  | c :: rest =>
    if c = '0' then some ([c], rest)
    else if c.isDigit then some (c :: rest.takeWhile Char.isDigit, rest.dropWhile Char.isDigit)
    else none

/-- The digits behind a point. A point without a digit behind it is left alone. -/
def scanFraction (cs : List Char) : Option (List Char) × List Char :=
  match cs with
  | '.' :: c :: rest =>
    if c.isDigit then (some (c :: rest.takeWhile Char.isDigit), rest.dropWhile Char.isDigit)
    else (none, cs)
  | _ => (none, cs)

def scanPowerSign : List Char → Bool × List Char
  | '+' :: rest => (false, rest)
  | '-' :: rest => (true, rest)
  | cs => (false, cs)

/-- A power of ten. A mark without digits behind it is left alone. -/
def scanExponent (cs : List Char) : Option Int × List Char :=
  match cs with
  | [] => (none, cs)
  | mark :: rest =>
    if mark = 'e' || mark = 'E' then
      let (negative, unsigned) := scanPowerSign rest
      let digits := unsigned.takeWhile Char.isDigit
      if digits.isEmpty then (none, cs)
      else
        let power : Int := decimalValue digits
        (some (if negative then -power else power), unsigned.dropWhile Char.isDigit)
    else (none, cs)

/-- The longest number at the start of a text, and the text behind it. -/
def scan (cs : List Char) : Option (Numeral × List Char) :=
  let (negative, unsigned) := scanSign cs
  (scanWhole unsigned).map fun (whole, afterWhole) =>
    let (fraction, afterFraction) := scanFraction afterWhole
    let (exponent, rest) := scanExponent afterFraction
    (⟨negative, whole, fraction, exponent⟩, rest)

theorem length_dropWhile_le (p : Char → Bool) (cs : List Char) :
    (cs.dropWhile p).length ≤ cs.length :=
  (List.dropWhile_suffix p).length_le

theorem scanSign_length (cs : List Char) : (scanSign cs).2.length ≤ cs.length := by
  unfold scanSign
  split <;> simp

theorem scanWhole_length {cs whole rest : List Char} (h : scanWhole cs = some (whole, rest)) :
    rest.length < cs.length := by
  cases cs with
  | nil => simp [scanWhole] at h
  | cons c cs => grind [scanWhole, length_dropWhile_le]

theorem scanFraction_length (cs : List Char) : (scanFraction cs).2.length ≤ cs.length := by
  unfold scanFraction
  split
  · split <;> grind [length_dropWhile_le]
  · simp

theorem scanPowerSign_length (cs : List Char) : (scanPowerSign cs).2.length ≤ cs.length := by
  unfold scanPowerSign
  split <;> simp

theorem scanExponent_length (cs : List Char) : (scanExponent cs).2.length ≤ cs.length := by
  cases cs with
  | nil => simp [scanExponent]
  | cons mark rest => grind [scanExponent, scanPowerSign_length, length_dropWhile_le]

/-- A number takes at least one character. -/
theorem scan_length {cs rest : List Char} {n : Numeral} (h : scan cs = some (n, rest)) :
    rest.length < cs.length := by
  obtain ⟨⟨whole, afterWhole⟩, hwhole, heq⟩ := Option.map_eq_some_iff.1 h
  obtain rfl : _ = rest := congrArg Prod.snd heq
  have h1 := scanSign_length cs
  have h2 : afterWhole.length < (scanSign cs).2.length := scanWhole_length hwhole
  have h3 := scanFraction_length afterWhole
  have h4 := scanExponent_length (scanFraction afterWhole).2
  simp only
  omega

/-- The binary number that a whole text spells. -/
def readBinary64 (cs : List Char) : Option Binary64 :=
  match scan cs with
  | some (n, []) => some n.toBinary64
  | _ => none

end Numeral

end Sidebar
