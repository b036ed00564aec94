import Sidebar.Json.Token

/-!
# Reading JSON

The tokens of a text drive a machine whose stack holds the arrays and objects that are still open.
A text is read when the machine has a finished value at its end.
-/

namespace Sidebar.Json

/-- The two kinds of containers. -/
inductive Container where
  | array
  | object
deriving DecidableEq

inductive ParseError where
  | malformed
  | tooDeep (container : Container)
deriving DecidableEq

/-- A container that waits for a value: an array with its items so far, the latest first, or an
object with its fields so far and the name of the next one. -/
inductive Frame where
  | item (items : List Json)
  | member (fields : Fields) (name : WideText)

/-- What the machine waits for. -/
inductive Progress where
  | valueStart (stack : List Frame)
  | arrayStart (stack : List Frame)
  | arrayRest (items : List Json) (stack : List Frame)
  | objectStart (stack : List Frame)
  | memberName (fields : Fields) (stack : List Frame)
  | memberColon (fields : Fields) (name : WideText) (stack : List Frame)
  | objectRest (fields : Fields) (stack : List Frame)
  | finished (value : Json)

/-- No more than this many containers may be open at once. -/
def maxNesting : Nat := 990

namespace Progress

/-- Hands a finished value to the innermost open container. -/
def complete (value : Json) : List Frame → Progress
  | [] => .finished value
  | .item items :: stack => .arrayRest (value :: items) stack
  | .member fields name :: stack => .objectRest (fields.put name value) stack

/-- Opens a container inside those of the stack. -/
def openInside (container : Container) (opened : Progress) (stack : List Frame) :
    Except ParseError Progress :=
  if stack.length < maxNesting then .ok opened else .error (.tooDeep container)

/-- Reads a token where a value must begin. -/
def beginValue (stack : List Frame) : Token → Except ParseError Progress
  | .scalar value => .ok (complete value stack)
  | .text text => .ok (complete (.str text) stack)
  | .openArray => openInside .array (.arrayStart stack) stack
  | .openObject => openInside .object (.objectStart stack) stack
  | _ => .error .malformed

/-- Reads one token. -/
def step : Progress → Token → Except ParseError Progress
  | .valueStart stack, token => beginValue stack token
  | .arrayStart stack, .closeArray => .ok (complete (.arr []) stack)
  | .arrayStart stack, token => beginValue (.item [] :: stack) token
  | .arrayRest items stack, .comma => .ok (.valueStart (.item items :: stack))
  | .arrayRest items stack, .closeArray => .ok (complete (.arr items.reverse) stack)
  | .objectStart stack, .closeObject => .ok (complete (.obj []) stack)
  | .objectStart stack, .text name => .ok (.memberColon [] name stack)
  | .memberName fields stack, .text name => .ok (.memberColon fields name stack)
  | .memberColon fields name stack, .colon => .ok (.valueStart (.member fields name :: stack))
  | .objectRest fields stack, .comma => .ok (.memberName fields stack)
  | .objectRest fields stack, .closeObject => .ok (complete (.obj fields) stack)
  | _, _ => .error .malformed

/-- The value that the machine has finished. -/
def result : Progress → Except ParseError Json
  | .finished value => .ok value
  | _ => .error .malformed

end Progress

/-- The value that a row of tokens stands for. -/
def ofTokens (ts : List Token) : Except ParseError Json :=
  ts.foldlM Progress.step (.valueStart []) >>= Progress.result

/-- The value of a text. -/
def parse (text : String) : Except ParseError Json := ofTokens (tokens text.toList)

end Sidebar.Json
