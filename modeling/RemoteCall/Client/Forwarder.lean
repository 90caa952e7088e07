import RemoteCall.Client.Call
import RemoteCall.Errand

/-!
# Forwarding requests

A `Forwarder` feeds a source of messages into the request side of a call: each message once the
one before it was accepted, and the end after the source has ended. It stops at the first failure,
be it an item of the source, a refused send or a rejected part. A forwarder that stops early, or
is dropped on its way, leaves a cleanup behind that cancels the call.
-/

namespace RemoteCall.Client

/-- A source of messages on its way into a call. -/
structure Forwarder (Req : Type) where
  /-- What the source has still to yield. -/
  items : List (Result Req)
  /-- The source ends after its items; otherwise it stays silent for ever. -/
  ends : Bool := true
  /-- The parts whose acceptance is awaited. -/
  awaited : List Receipt := []
  /-- The end was sent. -/
  closing : Bool := false

/-- A message of the application with a wish about compression. -/
def Setup.message {σ P Req Resp : Type} (setup : Setup σ P Req Resp) (message : Req)
    (compression : Compression) : RequestPart Req :=
  .message message (.compressed (compression.resolve setup.options.compress))

namespace Forwarder

variable {σ P Req Resp : Type}

/-- The part that comes next, and the forwarder once it is accepted. -/
def next? (setup : Setup σ P Req Resp) (f : Forwarder Req) :
    Option (Result (RequestPart Req × Forwarder Req)) :=
  match f.items with
  | .ok message :: rest => some (.ok (setup.message message .deferred, { f with items := rest }))
  | .error e :: _ => some (.error e)
  | [] => if f.ends then some (.ok (.finish, { f with closing := true })) else none

/-- One move, once the parts sent so far are accepted: it sends the next part, or it is done. -/
def move? (setup : Setup σ P Req Resp) (signals : Nat → Signal) (call : Call σ Resp)
    (f : Forwarder Req) : Option (Turn (Forwarder Req) (Result Unit) × Pass σ P Resp) :=
  match Receipt.awaitAll signals f.awaited with
  | none => none
  | some (.error e) => some (.done (.error e), .start call)
  | some (.ok ()) =>
    if f.closing then some (.done (.ok ()), .start call)
    else
      match f.next? setup with
      | none => none
      | some (.error e) => some (.done (.error e), .start call)
      | some (.ok (part, f)) =>
        match call.send setup [part] with
        | (.ok awaited, p) => some (.goesOn { f with awaited }, p)
        | (.error e, p) => some (.done (.error e), p)

end Forwarder

end RemoteCall.Client
