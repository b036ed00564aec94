import Sidebar.Text.Newline

/-!
# Encodings of text files

A file is read as strict UTF-8; bytes that are none are read one character per byte.
-/

namespace Sidebar.Text

/-- The text that the bytes encode in UTF-8, which excludes surrogates and overlong forms. -/
def utf8? (bytes : ByteArray) : Option String := String.fromUTF8? bytes

/-- The three bytes that may mark a text as UTF-8. -/
def utf8Mark : List UInt8 := [0xEF, 0xBB, 0xBF]

/-- The text in UTF-8 behind a mark, if there is one. Bytes that end inside the mark hold none. -/
def markedUtf8? (bytes : ByteArray) : Option String :=
  if utf8Mark.isPrefixOf bytes.data.toList then utf8? (bytes.extract 3 bytes.size)
  else if bytes.data.toList.isPrefixOf utf8Mark then some ""
  else utf8? bytes

/-- The text with one character for each byte. -/
def latin1 (bytes : ByteArray) : String :=
  String.ofList (bytes.data.toList.map fun b => Char.ofNat b.toNat)

/-- The text of a file: in UTF-8, with or without a mark, and else byte by byte. -/
def decode (bytes : ByteArray) : String := (utf8? bytes <|> markedUtf8? bytes).getD (latin1 bytes)

/-- The text of a file with uniform line ends. -/
def ofFile (bytes : ByteArray) : String := String.ofList (unixNewlines (decode bytes).toList)

end Sidebar.Text
