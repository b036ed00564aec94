/-!
# Line ends
-/

namespace Sidebar.Text

/-- Writes each line end, be it `\r\n`, `\r` or `\n`, as `\n`. -/
def unixNewlines : List Char → List Char
  | '\r' :: '\n' :: rest => '\n' :: unixNewlines rest
  | '\r' :: rest => '\n' :: unixNewlines rest
  | c :: rest => c :: unixNewlines rest
  | [] => []

end Sidebar.Text
