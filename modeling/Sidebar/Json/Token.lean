import Sidebar.Json.Basic

/-!
# JSON tokens

The marks, names and scalar values of a JSON text. Reading never fails: where no token begins, the
row of tokens ends with `invalid`, so that whoever reads the tokens meets the faults of a text in
their order.
-/

namespace Sidebar.Json

inductive Token where
  | openArray
  | closeArray
  | openObject
  | closeObject
  | comma
  | colon
  | text (text : WideText)
  | scalar (value : Json)
  | invalid

namespace Token

/-! ### Quoted text -/

def hexDigit? (c : Char) : Option Nat :=
  if c.isDigit then some (c.toNat - '0'.toNat)
  else if 'a' ≤ c && c ≤ 'f' then some (c.toNat - 'a'.toNat + 10)
  else if 'A' ≤ c && c ≤ 'F' then some (c.toNat - 'A'.toNat + 10)
  else none

/-- The code point with four digits in base sixteen. -/
def hexPoint? (a b c d : Char) : Option CodePoint := do
  return .ofNat
    ((((← hexDigit? a) * 16 + (← hexDigit? b)) * 16 + (← hexDigit? c)) * 16 + (← hexDigit? d))

/-- The character that a backslash and a letter stand for. -/
def escaped? : Char → Option Char
  | '"' => some '"'
  | '\\' => some '\\'
  | '/' => some '/'
  | 'b' => some '\x08'
  | 'f' => some '\x0c'
  | 'n' => some '\n'
  | 'r' => some '\r'
  | 't' => some '\t'
  | _ => none

/-- Puts a code point in front of the scanned ones. -/
def pushPoint : Option CodePoint → Option (WideText × List Char) → Option (WideText × List Char)
  | some point, some (points, after) => some (point :: points, after)
  | _, _ => none

/-- The code points of a text up to its closing quote, and what follows the quote. -/
def scanPoints : List Char → Option (WideText × List Char)
  | [] => none
  | '"' :: rest => some ([], rest)
  | '\\' :: 'u' :: a :: b :: c :: d :: rest => pushPoint (hexPoint? a b c d) (scanPoints rest)
  | '\\' :: c :: rest => pushPoint ((escaped? c).map CodePoint.ofChar) (scanPoints rest)
  | c :: rest =>
    if c.toNat < 0x20 then none else pushPoint (some (.ofChar c)) (scanPoints rest)

/-! ### Words and numbers -/

/-- The values that are spelled by a word. -/
def words : List (List Char × Json) := [
  ("null".toList, .null),
  ("true".toList, .bool true),
  ("false".toList, .bool false),
  ("NaN".toList, .float .nan),
  ("Infinity".toList, .float (.infinite false)),
  ("-Infinity".toList, .float (.infinite true))]

/-- Whole numbers with more digits than this are refused. -/
def maxDigits : Nat := 4300

/-- The value of a written number: exact when it is written whole, binary otherwise. -/
def ofNumeral (n : Numeral) : Token :=
  if !n.isWhole then .scalar (.float n.toBinary64)
  else if n.whole.length ≤ maxDigits then .scalar (.int n.toInt)
  else .invalid

/-! ### Rows of tokens -/

/-- The token that begins with `c`, and the text behind it. -/
def scan (c : Char) (rest : List Char) : Token × List Char :=
  match c with
  | '[' => (.openArray, rest)
  | ']' => (.closeArray, rest)
  | '{' => (.openObject, rest)
  | '}' => (.closeObject, rest)
  | ',' => (.comma, rest)
  | ':' => (.colon, rest)
  | '"' =>
    match scanPoints rest with
    | some (points, after) => (.text points.joinPairs, after)
    | none => (.invalid, [])
  | _ =>
    match words.find? fun word => word.1.isPrefixOf (c :: rest) with
    | some (word, value) => (.scalar value, (c :: rest).drop word.length)
    | none =>
      match Numeral.scan (c :: rest) with
      | some (n, after) => (ofNumeral n, after)
      | none => (.invalid, [])

/-- The characters that may stand between tokens. -/
def isSpace (c : Char) : Bool := c = ' ' || c = '\t' || c = '\n' || c = '\r'

theorem pushPoint_eq_some {point? : Option CodePoint}
    {scanned? : Option (WideText × List Char)} {points : WideText} {after : List Char}
    (h : pushPoint point? scanned? = some (points, after)) :
    ∃ rest, scanned? = some (rest, after) := by
  unfold pushPoint at h
  split at h <;> simp_all

theorem scanPoints_length {cs rest : List Char} {points : WideText}
    (h : scanPoints cs = some (points, rest)) : rest.length < cs.length := by
  fun_induction scanPoints cs generalizing points with
  | case1 => simp at h
  | case2 => simp_all
  | case3 a b c d cs ih =>
    obtain ⟨_, hcs⟩ := pushPoint_eq_some h
    have := ih hcs
    simp only [List.length_cons]
    omega
  | case4 c cs _ ih =>
    obtain ⟨_, hcs⟩ := pushPoint_eq_some h
    have := ih hcs
    simp only [List.length_cons]
    omega
  | case5 => simp at h
  | case6 c cs _ _ _ _ ih =>
    obtain ⟨_, hcs⟩ := pushPoint_eq_some h
    have := ih hcs
    simp only [List.length_cons]
    omega

theorem scan_length (c : Char) (rest : List Char) : (scan c rest).2.length ≤ rest.length := by
  have hword : ∀ word ∈ words, 0 < word.1.length := by decide
  unfold scan
  split <;> try simp
  · split
    · rename_i h
      have := scanPoints_length h
      simp
      omega
    · simp
  · split
    · rename_i word value h
      have := hword _ (List.mem_of_find?_eq_some h)
      simp only [List.length_drop, List.length_cons]
      grind
    · split
      · rename_i h
        have := Numeral.scan_length h
        simp only [List.length_cons] at this
        simp
        omega
      · simp

end Token

/-- The tokens of a text. -/
def tokens : List Char → List Token
  | [] => []
  | c :: rest =>
    if Token.isSpace c then tokens rest
    else (Token.scan c rest).1 :: tokens (Token.scan c rest).2
termination_by cs => cs.length
decreasing_by
  · simp
  · have := Token.scan_length c rest
    simp
    omega

end Sidebar.Json
