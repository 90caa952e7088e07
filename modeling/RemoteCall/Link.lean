import RemoteCall.Acceptance
import RemoteCall.Part

/-!
# The in-process link

A `Link` connects a client to a server in the same process: a queue in each direction and a pump
that empties it. Once invoked, the client's parts go into one queue until the link is closed by a
cancellation or by the end of the response; the serving pump hands them to the server. The
server's parts go into the other queue; the delivering pump hands them to the client up to the
end. A part is accepted once the far side has taken it.

A pump step tells what to hand over (`ServeStep`, `DeliverStep`), and is followed by the matching
`accept` once that is done. Acceptances are known by the number of the part.
-/

namespace RemoteCall

/-- What the client's side sends over a link. -/
inductive ToServer (P : Type) where
  | part (part : RequestPart P) (ticket : Nat)
  | cancel (ticket : Nat)

/-- How far a pump has come. -/
inductive Pump where
  /-- Waiting for the invocation. -/
  | idle
  /-- Started, but not moved yet. -/
  | starting
  | running
  | stopped
  deriving DecidableEq

/-- The state of a link. -/
structure Link (P : Type) where
  invoked : Bool := false
  /-- The client's side may still send. -/
  isOpen : Bool := false
  toServer : List (ToServer P) := []
  toClient : List (ResponsePart P × Nat) := []
  /-- The server's side is gone, so nothing more comes from it. -/
  serverGone : Bool := false
  serving : Pump := .idle
  delivering : Pump := .idle
  /-- The acceptances of the client's parts, by number. -/
  requestSignals : List Signal := []
  /-- The acceptances of the client's cancellations, by number. -/
  cancelSignals : List Signal := []
  /-- The acceptances of the server's parts, by number. -/
  responseSignals : List Signal := []

namespace Link

variable {P : Type}

/-- Why a part is rejected before the invocation and after the end. -/
def rejection (link : Link P) : CallError :=
  .transport (if link.invoked then "call is closed" else "call was not invoked")

/-- What a client is told when the server's side goes away without an end. -/
def noStatus : CallError := .transport "server closed the call without a status"

/-- Starts the call. A second invocation fails. -/
def invoke (link : Link P) : Result Unit × Link P :=
  if link.invoked then (.error .alreadyInvoked, link)
  else (.ok (), { link with
    invoked := true, isOpen := true, serving := .starting, delivering := .running })

def send (link : Link P) (part : RequestPart P) : Link P :=
  if link.isOpen then
    { link with
      toServer := link.toServer ++ [.part part link.requestSignals.length]
      requestSignals := link.requestSignals ++ [.waiting] }
  else
    { link with
      requestSignals := link.requestSignals ++ [.settled (.error link.rejection)] }

/-- Cancels the call. A link that is closed, or was never open, accepts that at once. -/
def cancel (link : Link P) : Link P :=
  if link.isOpen then
    { link with
      isOpen := false
      toServer := link.toServer ++ [.cancel link.cancelSignals.length]
      cancelSignals := link.cancelSignals ++ [.waiting] }
  else { link with cancelSignals := link.cancelSignals ++ [.settled (.ok ())] }

/-- Sends a part to the client. Once the client's side is gone the part is dropped. -/
def respond (link : Link P) (part : ResponsePart P) : Link P :=
  if link.delivering == .stopped then
    { link with responseSignals := link.responseSignals ++ [.dropped] }
  else
    { link with
      toClient := link.toClient ++ [(part, link.responseSignals.length)]
      responseSignals := link.responseSignals ++ [.waiting] }

/-- The server's side lets go of the link. -/
def dropServer (link : Link P) : Link P := { link with serverGone := true }

/-- What the serving pump does next. -/
inductive ServeStep (P : Type) where
  /-- Look the path up. -/
  | dispatch
  /-- Hand a part to the server. -/
  | part (part : RequestPart P) (ticket : Nat)
  /-- Tell the server of the cancellation. -/
  | cancel (ticket : Nat)
  /-- Let go of the server. -/
  | release

/-- One step of the serving pump, if it can move. -/
def serve? (link : Link P) : Option (ServeStep P × Link P) :=
  match link.serving with
  | .starting => some (.dispatch, { link with serving := .running })
  | .running =>
    match link.toServer with
    | .part part ticket :: rest => some (.part part ticket, { link with toServer := rest })
    | .cancel ticket :: rest => some (.cancel ticket, { link with toServer := rest })
    | [] => if link.isOpen then none else some (.release, { link with serving := .stopped })
  | _ => none

/-- The part of this number was taken by the server's side. -/
def acceptRequest (link : Link P) (ticket : Nat) : Link P :=
  { link with requestSignals := link.requestSignals.set ticket (.settled (.ok ())) }

/-- The cancellation of this number was taken by the server's side. -/
def acceptCancel (link : Link P) (ticket : Nat) : Link P :=
  { link with cancelSignals := link.cancelSignals.set ticket (.settled (.ok ())) }

/-- What the delivering pump does next. -/
inductive DeliverStep (P : Type) where
  /-- Hand a part to the client. -/
  | part (part : ResponsePart P) (ticket : Nat)
  /-- Tell the client that there will be no end. -/
  | error

/-- One step of the delivering pump, if it can move. -/
def deliver? (link : Link P) : Option (DeliverStep P × Link P) :=
  match link.delivering with
  | .running =>
    match link.toClient with
    | (part, ticket) :: rest => some (.part part ticket, { link with toClient := rest })
    | [] => if link.serverGone then some (.error, { link with delivering := .stopped }) else none
  | _ => none

/-- The delivering pump stops. Parts still in its queue are dropped. -/
def stopDelivering (link : Link P) : Link P :=
  { link with
    delivering := .stopped
    toClient := []
    responseSignals :=
      link.toClient.foldl (fun signals entry => signals.set entry.2 .dropped)
        link.responseSignals }

/-- The part of this number was taken by the client's side. The end closes the link. -/
def acceptResponse (link : Link P) (part : ResponsePart P) (ticket : Nat) : Link P :=
  let link :=
    { link with responseSignals := link.responseSignals.set ticket (.settled (.ok ())) }
  if part.isFinish then { link with isOpen := false }.stopDelivering else link

end Link

end RemoteCall
