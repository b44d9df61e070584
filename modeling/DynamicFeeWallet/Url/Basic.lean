import DynamicFeeWallet.Url.Host

/-!
# URLs

A URL in its parts. Each part is held as it is written, so `Url.render` only puts them together; it is the form in
which a URL is shown and used.
-/

namespace DynamicFeeWallet

/-- Who is asked, and where: what stands between two slashes and the path. -/
structure Authority where
  /-- The name of the user. -/
  user : String := ""
  /-- The password of the user. -/
  password : String := ""
  /-- The host. -/
  host : Host
  /-- The number after the host, unless it is the one that the scheme stands for. -/
  portNumber : Option UInt16 := none
deriving DecidableEq

/-- What is asked for. -/
inductive Path where
  /-- A text without structure. -/
  | plain (text : String)
  /-- Segments, each with a slash in front of it. -/
  | segments (names : List String)
deriving DecidableEq

/-- A URL. -/
structure Url where
  /-- The scheme, in small letters. -/
  scheme : String
  /-- Who is asked, if the URL says it. -/
  authority : Option Authority
  /-- What is asked for. -/
  path : Path
  /-- What stands after the question mark, if there is one. -/
  query : Option String := none
  /-- What stands after the hash sign, if there is one. -/
  fragment : Option String := none
deriving DecidableEq

/-- The name and the password of a user, with the sign that ends them; nothing when both are empty. -/
def Authority.renderCredentials (a : Authority) : String :=
  if a.user.isEmpty && a.password.isEmpty then ""
  else a.user ++ (if a.password.isEmpty then "" else ":" ++ a.password) ++ "@"

/-- The host and the number after it. -/
def Authority.renderPlace (a : Authority) : String :=
  a.host.render ++
    match a.portNumber with
    | some n => ":" ++ toString n.toNat
    | none => ""

/-- The text of an authority, with its two slashes. -/
def Authority.render (a : Authority) : String := "//" ++ a.renderCredentials ++ a.renderPlace

/-- The text of a path. -/
def Path.render : Path → String
  | plain text => text
  | segments names => String.join (names.map ("/" ++ ·))

/-- The path starts with two slashes. -/
def Path.hasEmptyStart : Path → Bool
  | segments ("" :: _ :: _) => true
  | _ => false

namespace Url

/-- What stands between the scheme and the path; a path that would be taken for an authority gets a point in front. -/
def renderPlace (u : Url) : String :=
  match u.authority with
  | some a => a.render
  | none => if u.path.hasEmptyStart then "/." else ""

/-- The text of a URL. -/
def render (u : Url) : String :=
  u.scheme ++ ":" ++ u.renderPlace ++ u.path.render ++
    (match u.query with | some query => "?" ++ query | none => "") ++
    (match u.fragment with | some fragment => "#" ++ fragment | none => "")

instance : ToString Url where
  toString := render

end Url

end DynamicFeeWallet
