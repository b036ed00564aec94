import Sidebar.Path
import Sidebar.Text.Blank
import Sidebar.Text.DecimalDigit
import Sidebar.Text.Lowercase
import Sidebar.Text.Wildcard
import Sidebar.Text.WordCharacter

/-!
# Likeness

How much a text looks like one of a language, in hundredths. Each language has a few signs of its
own, of which the first that is found counts.
-/

namespace Sidebar.Editor.Likeness

/-- Whether a text begins with a word. -/
def startsWith (word : String) (text : List Char) : Bool := word.toList.isPrefixOf text

/-- Whether a word occurs in a text. -/
def mentions (word : String) (text : List Char) : Bool := Text.someSuffix (startsWith word) text

/-- Whether an opening occurs that only characters of one class stand behind, at least one, up to a
closing one. -/
def encloses (opening : String) (inner : Char → Bool) (closing : Char) (text : List Char) : Bool :=
  Text.someSuffix (fun suffix =>
    startsWith opening suffix &&
      (let rest := suffix.drop opening.length
       !(rest.takeWhile inner).isEmpty && (rest.dropWhile inner).head? = some closing)) text

/-- The lines of a text. What stands behind the last line end is a line too. -/
def lines : List Char → List (List Char)
  | [] => [[]]
  | c :: cs =>
    if c = '\n' then [] :: lines cs
    else
      match lines cs with
      | [] => [[c]]
      | first :: rest => (c :: first) :: rest

/-- Whether a word stands behind the blanks of a line. -/
def opensLine (word : String) (text : List Char) : Bool :=
  (lines text).any fun line => startsWith word (line.dropWhile Text.isBlank)

/-! ### The program of a script -/

/-- The endings of program files. -/
def programEndings : List String := [".exe", ".cmd", ".bat", ".bin"]

/-- A name without the ending of a program file. -/
def withoutEnding (name : List Char) : List Char :=
  match programEndings.find? fun ending => ending.toList.isSuffixOf name with
  | some ending => name.take (name.length - ending.length)
  | none => name

/-- The plain letter that a variant of it is read as: a long `ſ` as `s`, and an `ı` without a dot
as `i`. -/
def plainLetter (c : Char) : Char := if c = 'ſ' then 's' else if c = 'ı' then 'i' else c

/-- The program that the first line of a script asks for: the last piece of the line, options
apart, in plain small letters and without its directory. -/
def program? (text : List Char) : Option (List Char) :=
  match (Text.lower (String.ofList (text.takeWhile (· ≠ '\n')))).toList with
  | '#' :: '!' :: command =>
    let pieces := segments ((Text.trim command).map fun c => if c = '\\' || c = ' ' then '/' else c)
    (pieces.filter fun piece => piece ≠ [] && piece.head? ≠ some '-').getLast?.map fun name =>
      withoutEnding (name.map plainLetter)
  | _ => none

/-- Whether a script asks for one of the programs with a property. -/
def runs (p : List Char → Bool) (text : List Char) : Bool := (program? text).any p

def isShell (name : List Char) : Bool := ["sh", "bash", "zsh"].contains (String.ofList name)

/-- Whether a name is `python`, perhaps with a `w`, and perhaps with a version of the third line. -/
def isPython (name : List Char) : Bool :=
  startsWith "python" name &&
    (let rest := name.drop 6
     match if rest.head? = some 'w' then rest.drop 1 else rest with
     | [] => true
     | ['3'] => true
     | ['3', '.', digit] => Text.isDecimalDigit digit
     | _ => false)

/-- Whether a name is `ruby`, perhaps with a version of the first line. -/
def isRuby (name : List Char) : Bool :=
  startsWith "ruby" name &&
    (match name.drop 4 with
     | [] => true
     | ['1', '.', digit] => Text.isDecimalDigit digit
     | _ => false)

/-! ### Messages in brackets -/

/-- What stands behind the name that a text begins with. A name begins with a plain letter or an
underscore. -/
def afterName? (text : List Char) : Option (List Char) :=
  match text with
  | c :: rest => if c.isAlpha || c = '_' then some (rest.dropWhile Text.isWordCharacter) else none
  | [] => none

/-- Whether the last part of a message stands at the beginning of a text: a name before the closing
bracket, or the colon before an argument, with a name or without. -/
def opensArgument (text : List Char) : Bool :=
  match afterName? text with
  | some rest => rest.head? = some ':' || (rest.dropWhile Text.isBlank).head? = some ']'
  | none => text.head? = some ':'

/-- Whether a text begins with a message: an opening bracket, the name of a receiver, blanks and the
name or the colon. -/
def opensMessage : List Char → Bool
  | '[' :: text =>
    (afterName? (text.dropWhile Text.isBlank)).any fun rest =>
      rest.head?.any Text.isBlank && opensArgument (rest.dropWhile Text.isBlank)
  | _ => false

/-! ### Languages -/

def ofC (text : List Char) : Nat :=
  if ["#include <", "#include \"", "#ifdef ", "#ifndef "].any (opensLine · text) then 10 else 0

def ofCpp (text : List Char) : Nat :=
  if encloses "#include <" (fun c => c.isLower || c = '_') '>' text then 20
  else if mentions "using namespace " text then 40
  else 0

/-- Whether a text begins with a number object. -/
def opensNumber : List Char → Bool
  | '@' :: c :: _ => c.isDigit
  | _ => false

def ofObjectiveC (text : List Char) : Nat :=
  if ["@end", "@implementation", "@protocol"].any (mentions · text) then 100
  else if mentions "@\"" text then 80
  else if Text.someSuffix opensNumber text then 70
  else if Text.someSuffix opensMessage text then 80
  else 0

def ofShell (text : List Char) : Nat :=
  if runs isShell text then 100 else if startsWith "$ " text then 20 else 0

def ofPython (text : List Char) : Nat :=
  if runs isPython text || mentions "import " (text.take 1000) then 100 else 0

def ofRuby (text : List Char) : Nat := if runs isRuby text then 100 else 0

/-- Variables with capital names are a sign of makefiles. -/
def ofMake (text : List Char) : Nat :=
  if encloses "$(" (fun c => c.isUpper || c = '_') ')' text then 10 else 0

def ofDiff (text : List Char) : Nat :=
  if startsWith "Index: " text || startsWith "diff " text then 100
  else if startsWith "--- " text then 90
  else 0

def ofTex (text : List Char) : Nat :=
  if ["\\documentclass", "\\input", "\\documentstyle", "\\relax"].any (startsWith · text) then 100
  else 0

/-- Whether the second line is as long as the first and has the same rule sign at both ends. -/
def isUnderlined (text : List Char) : Bool :=
  match lines text with
  | title :: rule :: _ :: _ =>
    title.length = rule.length && rule.head? = rule.getLast? &&
      (rule.head? = some '-' || rule.head? = some '=')
  | _ => false

def ofRst (text : List Char) : Nat :=
  if startsWith ".." text && text[2]? ≠ some '.' then 30
  else if isUnderlined text then 50
  else 0

/-- A section in brackets on the first line is a sign of settings. -/
def ofIni (text : List Char) : Nat :=
  match lines text with
  | first :: _ :: _ =>
    if 3 ≤ first.length && first.head? = some '[' && first.getLast? = some ']' then 100 else 0
  | _ => 0

end Sidebar.Editor.Likeness
