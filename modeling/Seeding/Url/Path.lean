/-
**Paths of URLs.**

A path is a list of segments between slashes. A segment of one dot means nothing and one of two
dots takes the segment before it back; `%2e` counts as a dot. The letter of a drive, with a colon
or a bar after it, is never taken back. Where a file's path starts with it, a host is not meant.
-/
import Seeding.Text.Parts

namespace Seeding.Url

/-! ### Segments -/

/-- A segment with its escaped dots as dots. -/
def withDots : List Char → List Char
  | '%' :: '2' :: 'e' :: rest => '.' :: withDots rest
  | '%' :: '2' :: 'E' :: rest => '.' :: withDots rest
  | character :: rest => character :: withDots rest
  | [] => []

/-- Whether two characters are the letter of a drive and its mark. -/
def isDriveMark (letter mark : Char) : Bool := letter.isAlpha && (mark = ':' || mark = '|')

/-- Whether a text is the letter of a drive. -/
def isDrive (text : List Char) : Bool :=
  match text with
  | [letter, mark] => isDriveMark letter mark
  | _ => false

/-- Whether a segment is never taken back. A backslash ends the letter of a drive as well. -/
def isKept (segment : List Char) : Bool :=
  match segment with
  | [letter, mark] => isDriveMark letter mark
  | letter :: mark :: '\\' :: _ => isDriveMark letter mark
  | _ => false

/-! ### Paths -/

/-- The segments of a path. -/
structure Path where
  segments : List (List Char) := []
  /-- The path starts with a drive. -/
  hasDrive : Bool := false

/-- What is left of the segments before two dots, the latest first. -/
def takenBack : List (List Char) → List (List Char)
  | [] => []
  | latest :: earlier => if isKept latest then latest :: earlier else earlier

/-- Reads segments after those that were read, the latest first. Where dots are last, the path ends
in a slash. -/
def Path.read (isFile : Bool) (before : List (List Char)) (hasDrive : Bool) :
    List (List Char) → Path
  | [] => { segments := before.reverse, hasDrive }
  | segment :: rest =>
    let closing := if rest = [] then [[]] else []
    if withDots segment = ['.', '.'] then
      Path.read isFile (closing ++ takenBack before) hasDrive rest
    else if withDots segment = ['.'] then Path.read isFile (closing ++ before) hasDrive rest
    else
      let isRoot := isFile && before = [] && isDrive segment
      let segment := if isRoot then segment.take 1 ++ [':'] else segment
      Path.read isFile (segment :: before) (hasDrive || isRoot) rest

/-- Reads a path; one slash in front belongs to no segment. -/
def Path.ofText (isFile : Bool) (isSlash : Char → Bool) (text : List Char) : Path :=
  match text with
  | [] => {}
  | first :: rest =>
    Path.read isFile [] false (Text.parts isSlash (if isSlash first then rest else text))

/-- The text of a path: a slash before each segment. -/
def Path.text (path : Path) : List Char := path.segments.flatMap ('/' :: ·)

end Seeding.Url
