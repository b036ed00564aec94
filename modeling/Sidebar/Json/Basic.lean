import Sidebar.Numeric.Shortest
import Sidebar.Text.Quoted
import Sidebar.Text.WideText

/-!
# JSON values

Values with exact integers, binary64 numbers and objects that keep the order of their fields. The
order shows in messages only: `Json.sorted` puts the fields of every object in the order of their
names, and two values with the same sorted form have the same content.

The texts of a value that is read from a file are wide. Snapshots are values whose texts hold no
surrogates.
-/

namespace Sidebar

instance Text.emptyString : EmptyCollection String := ⟨""⟩

@[simp] theorem Text.emptyString_eq : (∅ : String) = "" := rfl

/-- A value with texts of some kind. -/
inductive Json (τ : Type := WideText) where
  | null
  | bool (value : Bool)
  | int (value : Int)
  | float (value : Binary64)
  | str (text : τ)
  | arr (items : List (Json τ))
  | obj (fields : List (τ × Json τ))
deriving Inhabited

/-- The fields of an object, in the order in which their names first appeared. -/
abbrev Fields (τ : Type := WideText) := List (τ × Json τ)

namespace Fields

variable {τ : Type} [DecidableEq τ]

def get? (fields : Fields τ) (name : τ) : Option (Json τ) := List.lookup name fields

/-- Sets a field; a new name goes to the end, a known one keeps its place. -/
def put (name : τ) (value : Json τ) : Fields τ → Fields τ
  | [] => [(name, value)]
  | (other, old) :: rest =>
    if other = name then (name, value) :: rest else (other, old) :: put name value rest

theorem get?_put_self (name : τ) (value : Json τ) (fields : Fields τ) :
    get? (put name value fields) name = some value := by
  induction fields with
  | nil => simp [put, get?]
  | cons field rest ih =>
    obtain ⟨other, old⟩ := field
    by_cases h : other = name
    · simp [put, h, get?]
    · have hb : (name == other) = false := by simpa using Ne.symm h
      simpa [put, h, get?, List.lookup_cons, hb] using ih

theorem get?_put_of_ne {name other : τ} (h : other ≠ name) (value : Json τ) (fields : Fields τ) :
    get? (put name value fields) other = get? fields other := by
  have hb : (other == name) = false := by simpa using h
  induction fields with
  | nil => simp [put, get?, List.lookup_cons, hb]
  | cons field rest ih =>
    obtain ⟨key, old⟩ := field
    by_cases hk : key = name
    · simp [put, hk, get?, List.lookup_cons, hb]
    · simp only [get?] at ih
      simp [put, hk, get?, List.lookup_cons, ih]

end Fields

namespace Json

/-- What a value is, whatever it holds. -/
inductive Kind where
  | null
  | bool
  | int
  | float
  | str
  | arr
  | obj
deriving DecidableEq

section Texts

variable {τ : Type}

def kind : Json τ → Kind
  | .null => .null
  | .bool _ => .bool
  | .int _ => .int
  | .float _ => .float
  | .str _ => .str
  | .arr _ => .arr
  | .obj _ => .obj

/-- The field of an object; other values have none. -/
def field? [DecidableEq τ] : Json τ → (name : τ) → Option (Json τ)
  | .obj fields, name => Fields.get? fields name
  | _, _ => none

def nonEmptyText? [DecidableEq τ] [EmptyCollection τ] : Json τ → Option τ
  | .str text => if text = ∅ then none else some text
  | _ => none

end Texts

/-- Whether the value counts as absent: null, false, a zero, or something empty. -/
def isBlank : Json String → Bool
  | .null => true
  | .bool value => !value
  | .int value => value = 0
  | .float value => value.isZero
  | .str text => text.isEmpty
  | .arr items => items.isEmpty
  | .obj fields => fields.isEmpty

/-! ### Content -/

mutual

/-- The value with the fields of every object in the order of their names. -/
def sorted : Json → Json
  | .arr items => .arr (sortedItems items)
  | .obj fields => .obj ((sortedFields fields).mergeSort fun a b => WideText.le a.1 b.1)
  | value => value

def sortedItems : List Json → List Json
  | [] => []
  | value :: rest => value.sorted :: sortedItems rest

def sortedFields : List (WideText × Json) → List (WideText × Json)
  | [] => []
  | (name, value) :: rest => (name, value.sorted) :: sortedFields rest

end

/-! ### Values in messages -/

/-- The word for a kind of values. -/
def Kind.word : Kind → String
  | .null => "NoneType"
  | .bool => "bool"
  | .int => "int"
  | .float => "float"
  | .str => "str"
  | .arr => "list"
  | .obj => "dict"

/-- The words for numbers without digits in messages. -/
def messageWords : NumberWords := ⟨"nan", "inf"⟩

mutual

/-- The value as messages show it, on one line. -/
def inline : Json String → String
  | .null => "None"
  | .bool true => "True"
  | .bool false => "False"
  | .int value => toString value
  | .float value => String.ofList (value.text messageWords)
  | .str text => Text.quoted text
  | .arr items => "[" ++ ", ".intercalate (inlineItems items) ++ "]"
  | .obj fields => "\x7b" ++ ", ".intercalate (inlineFields fields) ++ "\x7d"

def inlineItems : List (Json String) → List String
  | [] => []
  | value :: rest => value.inline :: inlineItems rest

def inlineFields : List (String × Json String) → List String
  | [] => []
  | (name, value) :: rest => (Text.quoted name ++ ": " ++ value.inline) :: inlineFields rest

end

end Json

end Sidebar
