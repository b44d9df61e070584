import DynamicFeeWallet.Text.Pieces
import DynamicFeeWallet.Url.Basic

/-!
# Reading URLs

A URL is read from its scheme on; there is nothing that a text without a scheme could be relative to. Schemes that are
special need a host, take a backslash for a slash, and read as many slashes as they find before the host; files are
special in their own way. Segments of one point and of two points are carried out, and characters that may not stand
in a part are escaped.
-/

namespace DynamicFeeWallet.Url

/-- How a scheme is read. -/
inductive SchemeKind where
  /-- It needs a host. -/
  | special
  /-- It names files. -/
  | file
  /-- It is any other. -/
  | plain
deriving DecidableEq

/-- The special schemes that need a host, with the number that a host answers at. -/
def specialSchemes : List (String × UInt16) := [("http", 80), ("https", 443), ("ws", 80), ("wss", 443), ("ftp", 21)]

/-- The kind of a scheme. -/
def SchemeKind.of (scheme : String) : SchemeKind :=
  if scheme == "file" then file else if (specialSchemes.lookup scheme).isSome then special else plain

/-- The text without blanks and controls at its ends, and without tabs and line breaks. -/
def tidy (text : String) : List Char :=
  let isBlank (c : Char) : Bool := c.toNat ≤ 0x20
  let trimmed := ((text.toList.dropWhile isBlank).reverse.dropWhile isBlank).reverse
  trimmed.filter fun c => c != '\t' && c != '\n' && c != '\r'

/-- A character of a scheme. -/
def isSchemeChar (c : Char) : Bool := c.isAlphanum || c == '+' || c == '-' || c == '.'

/-- The scheme and what follows its colon. -/
def readScheme (text : List Char) : Option (String × List Char) :=
  match text.dropWhile isSchemeChar with
  | ':' :: rest =>
    let scheme := text.takeWhile isSchemeChar
    if (scheme.head?.map Char.isAlpha).getD false then some (String.ofList (scheme.map Char.toLower), rest) else none
  | _ => none

/-- A slash, or a backslash where it counts as one. -/
def isSlash (backslash : Bool) (c : Char) : Bool := c == '/' || backslash && c == '\\'

/-- The end of an authority. -/
def endsAuthority (backslash : Bool) (c : Char) : Bool := isSlash backslash c || c == '?' || c == '#'

/-- The end of a path. -/
def endsPath (c : Char) : Bool := c == '?' || c == '#'

/-- What stands before and after the first character of a kind; nothing stands after it when there is none. -/
def atFirst (isMark : Char → Bool) (text : List Char) : List Char × Option (List Char) :=
  match text.dropWhile (!isMark ·) with
  | [] => (text, none)
  | _ :: after => (text.takeWhile (!isMark ·), some after)

/-- The credentials before the last at sign, if there is one, and what follows it. -/
def atCredentials (text : List Char) : Option (List Char) × List Char :=
  match atFirst (· == '@') text.reverse with
  | (_, none) => (none, text)
  | (after, some before) => (some before.reverse, after.reverse)

/-- The host, and what follows the colon after it; a colon in brackets belongs to the host. -/
def atHost (inside : Bool) : List Char → List Char × Option (List Char)
  | [] => ([], none)
  | c :: rest =>
    if c == ':' && !inside then ([], some rest)
    else
      let (host, number) := atHost (c == '[' || inside && c != ']') rest
      (c :: host, number)

/-- Reads the number after a host and gives what follows it. The usual one of the scheme is left out. -/
def readPortNumber (usual : Option UInt16) (text : List Char) : Except UrlError (Option UInt16 × List Char) :=
  let digits := text.takeWhile Char.isDigit
  let rest := text.dropWhile Char.isDigit
  let n := Nat.ofDigitChars 10 digits 0
  if 0xffff < n ∨ (rest ≠ [] ∧ rest.head? ≠ some '\\') then .error .badPortNumber
  else if digits = [] ∨ usual = some (UInt16.ofNat n) then .ok (none, rest)
  else .ok (some (UInt16.ofNat n), rest)

/-- Reads an authority and gives what follows it. -/
def readAuthority (special : Bool) (usual : Option UInt16) (text : List Char) :
    Except UrlError (Authority × List Char) := do
  let body := text.takeWhile (!endsAuthority special ·)
  let rest := text.dropWhile (!endsAuthority special ·)
  let (credentials, place) := atCredentials body
  if credentials = some [] ∧ place = [] ∧ rest ≠ [] then throw .emptyHost
  let (user, password) := atFirst (· == ':') (credentials.getD [])
  let (hostText, number) := atHost false place
  if special ∧ hostText = [] then throw .emptyHost
  let host ← if special then Host.parseSpecial hostText else Host.parsePlain hostText
  if host = .none ∧ number.isSome then throw .emptyHost
  let (portNumber, beyond) ← readPortNumber usual (number.getD [])
  let escape (part : List Char) : String := String.ofList (Percent.encode Percent.isEscapedInCredentials part)
  let authority : Authority := { user := escape user, password := escape (password.getD []), host, portNumber }
  if host = .none ∧ authority.renderCredentials ≠ "" then throw .emptyHost
  return (authority, beyond ++ rest)

/-! ## Paths -/

/-- A segment of one point. -/
def isPoint (segment : List Char) : Bool := [".", "%2e"].contains (String.ofList (segment.map Char.toLower))

/-- A segment of two points. -/
def isTwoPoints (segment : List Char) : Bool :=
  ["..", ".%2e", "%2e.", "%2e%2e"].contains (String.ofList (segment.map Char.toLower))

/-- The letter of a drive with a colon, or with a bar in place of it. -/
def isDrive : List Char → Bool
  | [letter, c] => letter.isAlpha && (c == ':' || c == '|')
  | _ => false

/-- The name of a segment. In the path of a file the letter of a drive gets its colon. -/
def segmentName (file : Bool) (segment : List Char) : String :=
  if file && isDrive segment then String.ofList (segment.take 1 ++ [':'])
  else String.ofList (Percent.encode Percent.isEscapedInPath segment)

/-- One segment less; the drive of a file stays. -/
def dropSegment (file : Bool) (names : List String) : List String :=
  match names.getLast? with
  | some last => if file && isDrive last.toList then names else names.dropLast
  | none => []

/-- The names of segments that follow some names. -/
def resolve (file : Bool) : List String → List (List Char) → List String
  | names, [] => names
  | names, [last] =>
    if isTwoPoints last then dropSegment file names ++ [""]
    else if isPoint last then names ++ [""]
    else names ++ [segmentName file last]
  | names, segment :: rest =>
    if isTwoPoints segment then resolve file (dropSegment file names) rest
    else if isPoint segment then resolve file names rest
    else resolve file (names ++ [segmentName file segment]) rest

/-- The segments of a path, whose first slash may be left out. -/
def segmentsOf (backslash : Bool) (text : List Char) : List (List Char) :=
  Text.pieces (isSlash backslash)
    (match text with
    | [] => []
    | c :: rest => if isSlash backslash c then rest else c :: rest)

/-- The names of a file's path: empty segments in front are left out. -/
def fileNames (text : List Char) : List String :=
  match (resolve true [] (segmentsOf true text)).dropWhile String.isEmpty with
  | [] => [""]
  | names => names

/-- Reads who is asked for a file, and gives the path. A drive takes the place of a host. -/
def readFilePlace (text : List Char) : Except UrlError (Host × List Char) :=
  match text with
  | a :: b :: rest =>
    if isSlash true a && isSlash true b then do
      let body := rest.takeWhile (!endsAuthority true ·)
      let path := rest.dropWhile (!endsAuthority true ·)
      if isDrive body then return (.none, rest)
      else if body = [] then return (.none, path)
      else
        match ← Host.parseSpecial body with
        | .name "localhost" => return (.none, path)
        | host => return (host, path)
    else return (.none, text)
  | _ => return (.none, text)

/-- The authority and the path of a file. -/
def readFile (text : List Char) : Except UrlError (Authority × Path) := do
  let (host, path) ← readFilePlace text
  let segments := segmentsOf true path
  return ({ host := if segments.any isDrive then .none else host }, .segments (fileNames path))

/-- Reads what stands between the scheme and the query. -/
def readPlace (scheme : String) (text tail : List Char) : Except UrlError (Option Authority × Path) :=
  match SchemeKind.of scheme with
  | .file => do
    let (authority, path) ← readFile text
    return (some authority, path)
  | .special => do
    let (authority, path) ← readAuthority true (specialSchemes.lookup scheme) (text.dropWhile (isSlash true) ++ tail)
    return (some authority, .segments (resolve false [] (segmentsOf true (path.takeWhile (!endsPath ·)))))
  | .plain =>
    match text with
    | '/' :: '/' :: rest => do
      let (authority, path) ← readAuthority false none (rest ++ tail)
      let path := path.takeWhile (!endsPath ·)
      return (some authority, .segments (if path = [] then [] else resolve false [] (segmentsOf false path)))
    | '/' :: rest => return (none, .segments (resolve false [] (segmentsOf false ('/' :: rest))))
    | _ => return (none, .plain (String.ofList (Percent.encode Percent.isControl text)))

/-- Reads a URL. -/
def parse (text : String) : Except UrlError Url := do
  match readScheme (tidy text) with
  | none => throw .relative
  | some (scheme, rest) =>
    let special := SchemeKind.of scheme ≠ .plain
    let (beforeFragment, fragment) := atFirst (· == '#') rest
    let (place, query) := atFirst (· == '?') beforeFragment
    let (authority, path) ← readPlace scheme place (rest.drop place.length)
    return {
      scheme
      authority
      path
      query := query.map fun q => String.ofList (Percent.encode (Percent.isEscapedInQuery special) q)
      fragment := fragment.map fun f => String.ofList (Percent.encode Percent.isEscapedInFragment f) }

end DynamicFeeWallet.Url
