import Sidebar.Text.Lowercase

/-!
# Images

Whether a file is an image follows from its name: from its extension after a compression suffix has
been taken off.
-/

namespace Sidebar.Editor

/-- Splits a name in front of its last dot. A name with nothing but dots in front of the last one
has no extension. -/
def splitExtension (name : List Char) : List Char × List Char :=
  let extension := (name.reverse.takeWhile (· ≠ '.')).reverse
  let base := name.take (name.length - extension.length - 1)
  if name.contains '.' && base.any (· ≠ '.') then (base, '.' :: extension) else (name, [])

/-- Short extensions that stand for an extension and a compression suffix. -/
def combinedExtensions : List (String × String × String) := [
  (".svgz", ".svg", ".gz"), (".tgz", ".tar", ".gz"), (".taz", ".tar", ".gz"),
  (".tz", ".tar", ".gz"), (".tbz2", ".tar", ".bz2"), (".txz", ".tar", ".xz")]

/-- Compression suffixes, in which case matters. -/
def compressionSuffixes : List String := [".gz", ".Z", ".bz2", ".xz", ".br"]

def imageExtensions : List String := [
  ".avif", ".bmp", ".gif", ".heic", ".heif", ".ico", ".ief", ".jpe", ".jpeg", ".jpg", ".pbm",
  ".pgm", ".png", ".pnm", ".ppm", ".ras", ".rgb", ".svg", ".tif", ".tiff", ".xbm", ".xpm", ".xwd"]

/-- The small form of an extension. -/
def lowerExtension (extension : List Char) : String := Text.lower (String.ofList extension)

/-- The extension of a name without a compression suffix. -/
def contentExtension (name : List Char) : String :=
  let (base, extension) := splitExtension name
  match combinedExtensions.lookup (lowerExtension extension) with
  | some (inner, _) => inner
  | none =>
    if compressionSuffixes.contains (String.ofList extension) then
      lowerExtension (splitExtension base).2
    else lowerExtension extension

/-! ### Schemes -/

/-- The text in front of the first colon, in small letters, and what follows the colon. -/
def splitScheme (name : List Char) : Option (String × List Char) :=
  match name.takeWhile (· ≠ ':'), name.dropWhile (· ≠ ':') with
  | c :: cs, _ :: rest => some (Text.lower (String.ofList (c :: cs)), rest)
  | _, _ => none

/-- Whether a file with the given name is an image. The text in front of a colon is taken for the
scheme of an address and left out; what follows the scheme `data` is content and not a name. -/
def isImage (name : String) : Bool :=
  match splitScheme name.toList with
  | some ("data", _) => false
  | some (_, rest) => imageExtensions.contains (contentExtension rest)
  | none => imageExtensions.contains (contentExtension name.toList)

end Sidebar.Editor
