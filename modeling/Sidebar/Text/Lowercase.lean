import Sidebar.Text.CaseTables

/-!
# Lower case

The small form of a text. A letter is mapped alone, with two exceptions: dotted capital `İ` becomes
two characters, and capital sigma becomes the final form `ς` at the end of a word.
-/

namespace Sidebar.Text

/-- The shift of the run that holds the code point. -/
def CaseRun.shift? (run : CaseRun) (code : Nat) : Option Int :=
  if run.first ≤ code && code ≤ run.last && (code - run.first) % run.step = 0 then some run.shift
  else none

/-- The small letter of a capital; every other character is its own. -/
def lowerChar (c : Char) : Char :=
  match capitals.findSome? (·.shift? c.toNat) with
  | some shift => Char.ofNat (c.toNat + shift).toNat
  | none => c

/-- Whether the nearest character that is not passed over has case. -/
def nearestHasCase (cs : List Char) : Bool :=
  (cs.dropWhile (covers caseIgnorable)).head?.any (covers casedLetters)

/-- The small form of one character. `before` holds the characters in front of it, nearest first,
and `after` the ones behind it. -/
def lowerIn (before : List Char) (c : Char) (after : List Char) : List Char :=
  if c = 'Σ' then
    if nearestHasCase before && !nearestHasCase after then ['ς'] else ['σ']
  else if c = 'İ' then ['i', '\u0307']
  else [lowerChar c]

/-- The small form of the characters that follow `before`, which is read backwards. -/
def lowerFrom (before : List Char) : List Char → List Char
  | [] => []
  | c :: after => lowerIn before c after ++ lowerFrom (c :: before) after

/-- The small form of a text. -/
def lower (s : String) : String := String.ofList (lowerFrom [] s.toList)

end Sidebar.Text
