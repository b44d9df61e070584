import DynamicFeeWallet.FeeLevel
import DynamicFeeWallet.Node.Client

/-!
# Estimation of gas and fees

Two requests, one for the gas that a call uses and one for the recent fees, run as two legs that take turns in any
order. Both have to succeed; when both fail, the failure of the gas leg is told.
-/

namespace DynamicFeeWallet

/-- What a node says about the price of a call. -/
structure Estimate where
  /-- The gas that the call uses. -/
  gas : UInt256
  /-- The response document with the recent fees. -/
  feeHistory : Json

/-- A request on its way to a response document. -/
inductive Leg where
  /-- The request has not been handed over yet. -/
  | waiting (request : Request)
  /-- The request was handed over and its reply not taken in. -/
  | underway (request : Request) (ticket : Ticket)
  /-- The leg has ended. -/
  | settled (outcome : Except SendError Json)

namespace Leg

/-- The next turn of a leg. -/
def advance : Leg → Exchange Leg
  | waiting request => do return underway request (← Exchange.post request)
  | underway request ticket => do return settled (← Client.receive request ticket)
  | settled outcome => return settled outcome

/-- All turns that a leg has left. -/
def finish : Leg → Exchange (Except SendError Json)
  | waiting request => do
    let ticket ← Exchange.post request
    Client.receive request ticket
  | underway request ticket => Client.receive request ticket
  | settled outcome => return outcome

end Leg

/-- One of two legs. -/
inductive Side where
  | gas
  | fees
deriving DecidableEq

/-- Lets two legs take turns as a schedule says, and ends both after it. -/
def takeTurns : List Side → Leg → Leg → Exchange (Except SendError Json × Except SendError Json)
  | [], gas, fees => do
    let gasOutcome ← gas.finish
    return (gasOutcome, ← fees.finish)
  | .gas :: rest, gas, fees => do takeTurns rest (← gas.advance) fees
  | .fees :: rest, gas, fees => do takeTurns rest gas (← fees.advance)

/-- The response document of a leg, unless there is none or it is a failure. -/
def settle (method : String) : Except SendError Json → Except WalletError Json
  | .error error => .error (.node (.legFailed method error))
  | .ok document =>
    match Outcome.ofResponse document with
    | .success _ => .ok document
    | .failure error => .error (.node (.legReported method error))

/-- The estimate that two legs give: the gas leg is looked at first, then the fee leg, then the gas itself. -/
def Estimate.ofLegs (gas fees : Except SendError Json) : Except WalletError Estimate := do
  let gasDocument ← settle (Call.method (.estimateGas .null)) gas
  let feeHistory ← settle (Call.method (.feeHistory 0 "" [])) fees
  let result := gasDocument.getD "result"
  match Quantity.ofJson? result with
  | some amount => return ⟨amount, feeHistory⟩
  | none => throw (.node (.badGasEstimate result))

namespace Client

/-- The number of blocks that a fee history is asked for. -/
def historyBlocks : UInt64 := 5

/-- Both requests in flight at once. -/
def bothInFlight : List Side := [.gas, .fees, .gas, .fees]

/-- Estimates the gas of a call and fetches the recent fees. Nothing is sent when the call object is not in order;
otherwise both requests are, in turns as `schedule` says. -/
def estimateWith (schedule : List Side) (_client : Client) (object : Json) : Attempt Estimate := do
  let gasRequest ← prepare (.estimateGas object)
  let feeRequest ← prepare (.feeHistory historyBlocks "latest" FeeLevel.percentiles)
  let (gas, fees) ← takeTurns schedule (.waiting gasRequest) (.waiting feeRequest)
  match Estimate.ofLegs gas fees with
  | .ok estimate =>
    Exchange.count (.estimation true)
    return estimate
  | .error error =>
    Exchange.count (.estimation false)
    throw error

/-- Estimates the gas of a call and fetches the recent fees. -/
def estimate (client : Client) (object : Json) : Attempt Estimate := client.estimateWith bothInFlight object

end Client

end DynamicFeeWallet
