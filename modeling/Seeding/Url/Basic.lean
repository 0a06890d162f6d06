/-
**URLs.**

A URL starts with a scheme: a letter, then letters, digits, `+`, `-` or `.`, and a colon. What
follows may name an authority, which is a host with an optional user, password and port; the rest is
a path, a query after `?` and a fragment after `#`. Controls and spaces around a URL do not belong
to it, nor do tabs and line ends inside.

The schemes of the web are tied to the internet: they always have an authority, and a backslash
counts as a slash. A file may name a host, but neither user nor port. Any other scheme has an
authority after two slashes.
-/
import Seeding.Text.Parts
import Seeding.Url.Host
import Seeding.Url.Path

namespace Seeding

/-- The parts of a URL, the fragment apart. User, password and query are as written, and so is the
path but for its dots. -/
structure Url where
  /-- The scheme in small letters. -/
  scheme : String
  user : List Char := []
  password : List Char := []
  host? : Option Url.Host := none
  port? : Option Nat := none
  path : List Char := []
  query : List Char := []

namespace Url

/-! ### Schemes -/

/-- Whether a character may stand around a URL without belonging to it. -/
def isMargin (character : Char) : Bool := character.toNat ≤ 0x20

/-- Whether a character is left out wherever it stands. -/
def isIgnored (character : Char) : Bool :=
  character = '\t' || character = '\n' || character = '\r'

/-- A text without the characters that do not belong to a URL. -/
def cleaned (text : List Char) : List Char :=
  (((text.dropWhile isMargin).reverse.dropWhile isMargin).reverse).filter (!isIgnored ·)

/-- Whether a text is a scheme. -/
def isScheme : List Char → Bool
  | [] => false
  | first :: rest => first.isAlpha && rest.all fun character =>
      character.isAlphanum || ['+', '-', '.'].contains character

/-- What a scheme says about the rest of its URLs. -/
inductive Kind where
  /-- A resource of the web. -/
  | web
  | file
  | free
  deriving DecidableEq, Repr

/-- The kind of a scheme. -/
def Kind.ofScheme (scheme : String) : Kind :=
  if ["http", "https", "ws", "wss", "ftp"].contains scheme then .web
  else if scheme = "file" then .file
  else .free

/-! ### Authorities -/

/-- Whether a character ends an authority; `isTied` is for schemes that are tied to the internet. -/
def endsAuthority (isTied : Bool) (character : Char) : Bool :=
  character = '/' || character = '?' || character = '#' || (isTied && character = '\\')

/-- The host in front of a text: it ends at a colon outside of brackets. -/
def hostText (isBracketed : Bool) : List Char → List Char
  | [] => []
  | character :: rest =>
    if character = ':' ∧ !isBracketed then []
    else character :: hostText
      (character = '[' || (isBracketed && character ≠ ']')) rest

/-- Reads what follows a host: nothing or a colon and digits. A backslash ends them. -/
def port (text : List Char) : Except Fault (Option Nat) :=
  let digits := (text.drop 1).takeWhile Char.isDigit
  let value := Nat.ofDigitChars 10 digits 0
  let rest := (text.drop 1).dropWhile Char.isDigit
  if (rest = [] ∨ rest.head? = some '\\') ∧ value < 65536 then
    .ok (if digits = [] then none else some value)
  else .error .invalidPort

/-- Reads a host and a port. A scheme that is tied to the internet needs the host, and so does a
port. -/
def hostAndPort (isTied : Bool) (text : List Char) : Except Fault (Option Host × Option Nat) := do
  let written := hostText false text
  let following := text.drop written.length
  if written = [] ∧ (isTied ∨ following ≠ []) then throw .emptyHost
  let host ← Host.ofText isTied written
  let port? ← port following
  pure (if written = [] then none else some host, port?)

/-- The parts of an authority. -/
structure Authority where
  user : List Char
  password : List Char
  host? : Option Host
  port? : Option Nat

/-- Reads an authority; `isLast` says that nothing follows it. The last at sign divides the user
and password from the host, and a user or password needs a host. -/
def authority (isTied isLast : Bool) (text : List Char) : Except Fault Authority := do
  let (personal, place) := match Text.cutLast? (· = '@') text with
    | none => ([], text)
    | some (personal, place) => (personal, place)
  let (user, password?) := Text.cut (· = ':') personal
  let password := password?.getD []
  if place = [] ∧ text ≠ [] ∧ personal = [] ∧ !isLast then throw .emptyHost
  let (host?, port?) ← hostAndPort isTied place
  if host?.isNone ∧ (user ≠ [] ∨ password ≠ []) then throw .emptyHost
  pure { user, password, host?, port? }

/-! ### URLs -/

/-- Whether a character divides the path of a URL. -/
def isSlash (kind : Kind) (character : Char) : Bool :=
  character = '/' || (kind ≠ .free && character = '\\')

/-- What stands before the fragment, as a path and a query. -/
def pathAndQuery (text : List Char) : List Char × List Char :=
  let (path, query?) := Text.cut (· = '?') (text.takeWhile (· ≠ '#'))
  (path, query?.getD [])

/-- Adds a written path and query to a URL. -/
def withRest (kind : Kind) (rest : List Char) (url : Url) : Url :=
  let (written, query) := pathAndQuery rest
  let path := Path.ofText (kind = .file) (isSlash kind) written
  { url with path := path.text, query, host? := if path.hasDrive then none else url.host? }

/-- Reads a URL from its authority on. -/
def withAuthority (scheme : String) (kind : Kind) (rest : List Char) : Except Fault Url := do
  let isTied := kind = .web
  let following := rest.dropWhile (!endsAuthority isTied ·)
  let found ← authority isTied (following = []) (rest.takeWhile (!endsAuthority isTied ·))
  pure (withRest kind following
    { scheme, user := found.user, password := found.password, host? := found.host?,
      port? := found.port? })

/-- Reads the URL of a file from its host on. The own machine is as good as none, and the letter of
a drive belongs to the path. -/
def ofFile (scheme : String) (rest : List Char) : Except Fault Url := do
  let written := rest.takeWhile (!endsAuthority true ·)
  if isDrive written ∨ written = [] then pure (withRest .file rest { scheme })
  else
    let host ← Host.ofText true written
    let host? := if host = .name "localhost".toList then none else some host
    pure (withRest .file (rest.drop written.length) { scheme, host? })

/-- A URL without an authority. A path that does not start with a slash is kept as written. -/
def withoutAuthority (scheme : String) (kind : Kind) (rest : List Char) : Url :=
  if kind = .free ∧ rest.head? ≠ some '/' then
    let (path, query) := pathAndQuery rest
    { scheme, path, query }
  else withRest kind rest { scheme }

/-- Reads what follows a scheme. -/
def ofScheme (scheme : String) (rest : List Char) : Except Fault Url :=
  let kind := Kind.ofScheme scheme
  match kind, rest with
  | .web, _ => withAuthority scheme kind (rest.dropWhile (isSlash kind))
  | _, first :: second :: named =>
    if isSlash kind first ∧ isSlash kind second then
      if kind = .file then ofFile scheme named else withAuthority scheme kind named
    else .ok (withoutAuthority scheme kind rest)
  | _, _ => .ok (withoutAuthority scheme kind rest)

/-- Reads a URL. -/
def ofText (text : String) : Except Fault Url :=
  match Text.cut (· = ':') (cleaned text.toList) with
  | (_, none) => .error .relative
  | (written, some rest) =>
    if isScheme written then ofScheme (String.ofList (written.map Char.toLower)) rest
    else .error .relative

end Url

end Seeding
