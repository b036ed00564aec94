/-!
# Wide texts

A text from outside may hold surrogates, which are no characters: JSON can spell them one by one. A
wide text is a row of code points. The texts of the program are those wide texts that hold nothing
but characters.
-/

namespace Sidebar

/-- A character or a surrogate. -/
abbrev CodePoint := Fin 0x110000

namespace CodePoint

theorem toNat_lt (c : Char) : c.toNat < 0x110000 := by
  rcases c.valid with h | h
  · exact Nat.lt_trans h (by decide)
  · exact h.2

def ofChar (c : Char) : CodePoint := ⟨c.toNat, toNat_lt c⟩

/-- The code point with a number, which must be one of a code point. -/
def ofNat (n : Nat) : CodePoint := ⟨n % 0x110000, Nat.mod_lt n (by decide)⟩

/-- The character with a code point; a surrogate has none. -/
def char? (p : CodePoint) : Option Char :=
  if h : p.val.isValidChar then some (.ofNatAux p.val h) else none

def isHighSurrogate (p : CodePoint) : Bool := 0xD800 ≤ p.val && p.val < 0xDC00

def isLowSurrogate (p : CodePoint) : Bool := 0xDC00 ≤ p.val && p.val < 0xE000

/-- The character that two surrogates stand for together. -/
def join (high low : CodePoint) : CodePoint :=
  .ofNat (0x10000 + (high.val - 0xD800) * 0x400 + (low.val - 0xDC00))

end CodePoint

/-- A text that may hold surrogates. -/
abbrev WideText := List CodePoint

namespace WideText

def ofString (s : String) : WideText := s.toList.map CodePoint.ofChar

instance : Coe String WideText := ⟨ofString⟩

/-- The text, if there are no surrogates in it. -/
def narrow? (text : WideText) : Option String := (text.mapM CodePoint.char?).map String.ofList

/-- The order of texts: by the first code points in which they differ. -/
def le : WideText → WideText → Bool
  | [], _ => true
  | _ :: _, [] => false
  | p :: rest, q :: rest' => p.val < q.val || (p = q && le rest rest')

/-- The text with each pair of surrogates joined. A surrogate that stands alone stays. -/
def joinPairs : WideText → WideText
  | high :: low :: rest =>
    if high.isHighSurrogate && low.isLowSurrogate then high.join low :: joinPairs rest
    else high :: joinPairs (low :: rest)
  | text => text

end WideText

end Sidebar
