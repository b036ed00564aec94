import Sidebar.Text.Wildcard

/-!
# Languages of files

A language is told by the name of a file first. Between the languages that a name fits, the content
decides.
-/

namespace Sidebar.Editor

/-- A language that the editor knows. -/
structure Language where
  mode : String
  /-- The shapes of the names of its files. -/
  names : List String
  /-- How much an empty file counts as one of the language, in hundredths. -/
  weight : Nat := 0
  /-- How much a text looks like one of the language, in hundredths. -/
  likeness : List Char → Nat := fun _ => 0

namespace Language

def fits (name : String) (language : Language) : Bool :=
  language.names.any fun shape => Text.hasShape shape.toList name.toList

/-- What a language that lists the whole name is favoured by, in hundredths. -/
def favour (name : String) (language : Language) : Nat :=
  if language.names.contains name && !name.toList.contains '*' then 50 else 0

/-- How well a file with the given name and content fits. -/
def rating (name content : String) (language : Language) : Nat :=
  language.favour name +
    (if content.isEmpty then language.weight else language.likeness content.toList)

/-- The better of two languages, the second one when they are equally good. -/
def better (name content : String) (first second : Language) : Language :=
  if second.rating name content < first.rating name content then first else second

/-- The best of some languages. -/
def best? (name content : String) : List Language → Option Language
  | [] => none
  | first :: rest => some (rest.foldl (better name content) first)

theorem mem_of_best?_eq_some {name content : String} {languages : List Language}
    {language : Language} (h : best? name content languages = some language) :
    language ∈ languages := by
  have hfold : ∀ (rest : List Language) (first : Language),
      rest.foldl (better name content) first ∈ first :: rest := by
    intro rest
    induction rest with
    | nil => simp
    | cons next rest ih =>
      intro first
      have hbetter : better name content first next = first ∨
          better name content first next = next := by
        rw [better]
        split
        · exact .inl rfl
        · exact .inr rfl
      rcases hbetter with heq | heq
      · rw [List.foldl_cons, heq]
        exact ((List.sublist_cons_self next rest).cons_cons first).subset (ih first)
      · rw [List.foldl_cons, heq]
        exact List.mem_cons_of_mem _ (ih next)
  cases languages with
  | nil => cases h
  | cons first rest =>
    cases h
    exact hfold rest first

end Language

end Sidebar.Editor
