import DynamicFeeWallet.Node.Failover
import DynamicFeeWallet.Text.Base64
import DynamicFeeWallet.Text.Case

/-!
# Messages between the wallet and an endpoint

The bytes of a request that hands a document over, and what the bytes of a response say. A response ends with the
connection, or after as many bytes as it says, or with its last chunk.
-/

namespace DynamicFeeWallet.Http

/-- The end of a line. -/
def lineEnd : String := "\r\n"

/-- The host of a URL, and the number that it answers at. -/
def place (url : Url) : Host × UInt16 :=
  let usual := (Url.specialSchemes.lookup url.scheme).getD 80
  match url.authority with
  | some a => (a.host, a.portNumber.getD usual)
  | none => (.none, usual)

/-- The host as the message names it. -/
def hostName (url : Url) : String := (url.authority.map Authority.renderPlace).getD ""

/-- The bytes that a part of a URL stands for. -/
def plainBytes (part : String) : Bytes := Percent.decode (Bytes.ofText part)

/-- The line that tells who asks, when the URL names a user. -/
def credentialLines (url : Url) : List String :=
  match url.authority with
  | some a =>
    if a.renderCredentials.isEmpty then []
    else
      let credentials := plainBytes a.user ++ Bytes.ofText ":" ++ plainBytes a.password
      ["Authorization: Basic " ++ String.ofList (Base64.encode credentials)]
  | none => []

/-- The bytes that hand a document over to a URL. -/
def request (url : Url) (body : String) : Bytes :=
  let target := url.path.render ++ (match url.query with | some query => "?" ++ query | none => "")
  let content := Bytes.ofText body
  let head :=
    ["POST " ++ target ++ " HTTP/1.1", "Host: " ++ hostName url, "Content-Type: application/json",
      s!"Content-Length: {content.length}", "Connection: close"] ++ credentialLines url ++ ["", ""]
  Bytes.ofText (lineEnd.intercalate head) ++ content

/-- The bytes up to the end of a line, and those after it. -/
def atLineEnd? : Bytes → Option (Bytes × Bytes)
  | 13 :: 10 :: rest => some ([], rest)
  | b :: rest => (atLineEnd? rest).map fun (line, rest) => (b :: line, rest)
  | [] => none

/-- The text of bytes that are ASCII. -/
def asciiText (bytes : Bytes) : String := String.ofList (bytes.map fun b => Char.ofNat b.toNat)

/-- A header: its name in small letters, and its value. -/
def header (line : String) : String × String :=
  let name := line.toList.takeWhile (· != ':')
  (Text.lowerCase (String.ofList name), (String.ofList (line.toList.drop (name.length + 1))).trimAscii.toString)

/-- The headers up to the empty line, and the bytes after it. -/
def headers? : Nat → Bytes → Option (List (String × String) × Bytes)
  | 0, _ => none
  | fuel + 1, bytes => do
    let (line, rest) ← atLineEnd? bytes
    if line.isEmpty then return ([], rest)
    else
      let (more, rest) ← headers? fuel rest
      return (header (asciiText line) :: more, rest)

/-- The number that hexadecimal digits in front of a line write. -/
def chunkSize? (line : Bytes) : Option Nat :=
  let digits := (asciiText line).toList.takeWhile Hex.isDigit
  if digits.isEmpty then none else some (digits.foldl (fun n c => n * 16 + (Hex.digit? c).getD 0) 0)

/-- The bytes of all chunks. -/
def chunks? : Nat → Bytes → Option Bytes
  | 0, _ => none
  | fuel + 1, bytes => do
    let (line, rest) ← atLineEnd? bytes
    let size ← chunkSize? line
    if size = 0 then return []
    else if rest.length < size then none
    else
      let (_, next) ← atLineEnd? (rest.drop size)
      return rest.take size ++ (← chunks? fuel next)

/-- The bytes of the document. -/
def content? (headers : List (String × String)) (rest : Bytes) : Option Bytes :=
  if (headers.lookup "transfer-encoding").map Text.lowerCase = some "chunked" then chunks? (rest.length + 1) rest
  else
    match (headers.lookup "content-length").map String.toNat? with
    | some (some length) => if rest.length < length then none else some (rest.take length)
    | some none => none
    | none => some rest

/-- What a response says. -/
def response (bytes : Bytes) : Answer :=
  let read : Option Answer := do
    let (first, rest) ← atLineEnd? bytes
    let status ← ((asciiText first).splitOn " ")[1]?.bind String.toNat?
    let (headers, rest) ← headers? rest.length rest
    let content ← content? headers rest
    return .answered status (String.fromUTF8? (ByteArray.mk content.toArray) |>.getD (asciiText content))
  read.getD (.failed "malformed response")

end DynamicFeeWallet.Http
