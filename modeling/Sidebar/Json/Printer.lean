import Sidebar.Json.Basic

/-!
# Writing JSON

The text of a value with one item or field per line, indented by two spaces for each open container,
the fields of objects in the order of their names, and nothing but ASCII characters. A surrogate is
written as an escape of its own.
-/

namespace Sidebar.Json

/-- A code unit as an escape. -/
def escapedUnit (unit : Nat) : List Char := '\\' :: 'u' :: Text.hexDigits 4 unit

/-- How a character is written in a quoted text: characters beyond the first plane as two
surrogates. -/
def writtenChar (c : Char) : List Char :=
  if c = '"' || c = '\\' then ['\\', c]
  else if c = '\n' then ['\\', 'n']
  else if c = '\r' then ['\\', 'r']
  else if c = '\t' then ['\\', 't']
  else if c = '\x0c' then ['\\', 'f']
  else if c = '\x08' then ['\\', 'b']
  else if ' ' ≤ c && c ≤ '~' then [c]
  else if c.toNat < 0x10000 then escapedUnit c.toNat
  else
    let beyond := c.toNat - 0x10000
    escapedUnit (0xD800 + beyond / 0x400) ++ escapedUnit (0xDC00 + beyond % 0x400)

/-- How a code point is written: a surrogate, which is no character, always as an escape. -/
def writtenPoint (p : CodePoint) : List Char :=
  match p.char? with
  | some c => writtenChar c
  | none => escapedUnit p.val

def writtenText (text : WideText) : List Char := '"' :: text.flatMap writtenPoint ++ ['"']

/-- The words for numbers without digits. -/
def fileWords : NumberWords := ⟨"NaN", "Infinity"⟩

/-- Ends a line and indents the next one. -/
def lineBreak (depth : Nat) : List Char := '\n' :: List.replicate (2 * depth) ' '

mutual

/-- The text of a value inside `depth` open containers, with the fields in the order given. -/
def layout (depth : Nat) : Json → List Char
  | .null => "null".toList
  | .bool true => "true".toList
  | .bool false => "false".toList
  | .int value => (toString value).toList
  | .float value => value.text fileWords
  | .str text => writtenText text
  | .arr [] => ['[', ']']
  | .arr (value :: rest) =>
    '[' :: lineBreak (depth + 1) ++ layout (depth + 1) value ++ layoutItems (depth + 1) rest ++
      lineBreak depth ++ [']']
  | .obj [] => ['{', '}']
  | .obj ((name, value) :: rest) =>
    '{' :: lineBreak (depth + 1) ++ writtenText name ++ ':' :: ' ' :: layout (depth + 1) value ++
      layoutFields (depth + 1) rest ++ lineBreak depth ++ ['}']

def layoutItems (depth : Nat) : List Json → List Char
  | [] => []
  | value :: rest => ',' :: lineBreak depth ++ layout depth value ++ layoutItems depth rest

def layoutFields (depth : Nat) : List (WideText × Json) → List Char
  | [] => []
  | (name, value) :: rest =>
    ',' :: lineBreak depth ++ writtenText name ++ ':' :: ' ' :: layout depth value ++
      layoutFields depth rest

end

/-- The text of a value, which depends on its content only. -/
def print (value : Json) : String := String.ofList (value.sorted.layout 0)

end Sidebar.Json
