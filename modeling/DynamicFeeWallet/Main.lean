import DynamicFeeWallet.CommandLine.Command
import DynamicFeeWallet.CommandLine.Help
import DynamicFeeWallet.Node.Http
import Std.Async.DNS
import Std.Async.TCP
import Std.Async.Timer

/-!
# The program

Reads the arguments, the file of the settings and the environment, carries the plan of the command out over the
network, and prints its lines. The exit code is 1 when the command fails and 2 when the arguments are not in order.
-/

namespace DynamicFeeWallet.Program

open Std.Async Std.Net

/-- The address of a host in the network. -/
def lookUp (host : Host) (number : UInt16) : Async SocketAddress := do
  match host with
  | .ipv4 address =>
    match address.toBytes with
    | [a, b, c, d] => return .v4 ⟨.ofParts a b c d, number⟩
    | _ => throw (.userError "address")
  | .ipv6 address =>
    match address.units.map UInt16.ofNat with
    | [a, b, c, d, e, f, g, h] => return .v6 ⟨.ofParts a b c d e f g h, number⟩
    | _ => throw (.userError "address")
  | .name text =>
    let found : Array IPAddr ← DNS.getAddrInfo text (toString number.toNat)
    match (found[0]? : Option IPAddr) with
    | some (.v4 address) => return .v4 ⟨address, number⟩
    | some (.v6 address) => return .v6 ⟨address, number⟩
    | none => throw (.userError "unknown host")
  | .none => throw (.userError "no host")

/-- Reads until the other side has nothing more to say. -/
partial def readAll (socket : TCP.Socket.Client) (seen : ByteArray) : Async ByteArray := do
  match ← socket.recv? 65536 with
  | some bytes => readAll socket (seen ++ bytes)
  | none => return seen

/-- Sends the bytes of a request and reads those of the response. -/
def talk (url : Url) (message : Bytes) : Async (Option ByteArray) := do
  let (host, number) := Http.place url
  let socket ← TCP.Socket.Client.mk
  socket.connect (← lookUp host number)
  socket.send (ByteArray.mk message.toArray)
  return some (← readAll socket .empty)

/-- Waits and gives nothing. -/
def expire (seconds : Nat) : Async (Option ByteArray) := do
  (← Sleep.mk (.ofNat (1000 * min seconds 1000000))).wait
  return none

/-- Sends a request to an endpoint and waits for the answer while the time allows. -/
def post (timeoutSecs : Nat) (url : Url) (request : Request) : IO Answer := do
  if url.scheme != "http" then return .failed "unsupported scheme"
  try
    match ← (Async.race (talk url (Http.request url request.body)) (expire timeoutSecs)).block with
    | some bytes => return Http.response bytes.toList
    | none => return .timedOut
  catch error => return .failed (toString error)

/-- Waits for some seconds. -/
def idle : Nat → IO Unit
  | 0 => return ()
  | seconds + 1 => do
    IO.sleep 1000
    idle seconds

/-- Carries out a plan over the network; `replies` are those to the requests that were handed over. -/
def carryOut {α : Type} (send : Request → IO Reply) : Array Reply → Exchange α → IO α
  | _, .done result => return result
  | replies, .dispatch request next => do
    let reply ← send request
    carryOut send (replies.push reply) (next replies.size)
  | replies, .collect ticket next => carryOut send replies (next (replies[ticket]?.getD (.error (.exhausted 0))))
  | replies, .record _ next => carryOut send replies next
  | replies, .pause seconds next => do
    idle seconds
    carryOut send replies next

/-- Tells why a command fails. -/
def fail (message : String) : IO UInt32 := do
  IO.eprintln ("Error: " ++ message)
  return 1

/-- The text of a file, if it can be read. -/
def readText (path : String) : IO (Option String) := do
  try
    return some (← IO.FS.readFile path)
  catch _ => return none

/-- Carries out an invocation. -/
def invoke (invocation : Invocation) : IO UInt32 := do
  let document ← match invocation.config with
    | some path => readText path
    | none => pure none
  match invocation.settings document with
  | .error error => fail error.message
  | .ok settings =>
    match Endpoints.ofSettings settings.network with
    | .error error => fail (WalletError.transport error).message
    | .ok endpoints =>
      let random ← IO.getRandomBytes 32
      let env : Environment := ⟨← IO.getEnv keyVariable, (FixedBytes.ofBytes? 32 random.toList).getD default⟩
      let send := fun request => endpoints.send (post settings.network.rpcTimeoutSecs.toNat) request
      let (lines, failure) ← carryOut send #[] (invocation.run settings env)
      lines.forM IO.println
      match failure with
      | none => return 0
      | some error => fail error.message

end DynamicFeeWallet.Program

open DynamicFeeWallet in
/-- The program. -/
def main (arguments : List String) : IO UInt32 := do
  match CommandLine.parse arguments with
  | .ok invocation => Program.invoke invocation
  | .error (.help topic) =>
    (CommandLine.help topic).forM IO.println
    return 0
  | .error .misuse =>
    (CommandLine.help none).forM IO.eprintln
    return 2
