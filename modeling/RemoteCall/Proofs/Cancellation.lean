import RemoteCall.Proofs.CancelScope.Run
import RemoteCall.Proofs.Server.CancelSteps

/-!
# Cancelled scopes run nothing

What runs inside a scope is polled until the scope is cancelled, and not any more by a poll that
begins after that. A served call runs its handler inside a scope, which is cancelled when the call
is over, so the handler is then left alone, also if it was never polled before.

A failure that an interceptor raises has no part in this before it has come through the chain: one
that another interceptor keeps to itself does not cancel the scope. And the end of a call is handed
over first and cancels the scope behind that, so a poll in between still gets to the handler
(`Shielded.handler_runs_on`).
-/

namespace RemoteCall

namespace Server.Shielded

/-- Takes a message of the client for a failure. -/
def guarding : Interceptor Unit (ResponsePart String) (RequestPart String) where
  inbound _ part :=
    match part with
    | .message _ _ => .fail (.transport "bad") .done
    | part => .receive part .done

/-- Keeps failures from the call. -/
def shielding : Interceptor Unit (ResponsePart String) (RequestPart String) where
  failure _ _ := .done

def method : Method Unit String String String where
  shape := .bidirectional
  chain := { interceptors := [guarding, shielding] }
  requests := .verbatim
  responses := .verbatim

/-- Waits, and returns. -/
def handler : Handler Unit String String Bool where
  start _ _ := false
  wish
    | false => .sleep 5 true
    | true => .finish (.ok none)

def served : Serving Unit String String String Bool := .fresh method handler false "/s.S/Do" ()

/-- The handler has been called, and begins to wait. -/
def called : List (Move Unit String String String) :=
  .receive (.headers .empty) :: List.replicate 3 (.task 0 fun _ => .waiting)

/-- An interceptor answers the message with an end, which has been handed over just now. -/
def ending : Overlap Unit String String String :=
  .run (Limiter.behind Limiter.limiting) "/s.S/Do" ()
    (.begin (.receive (.headers .empty)) :: List.replicate 6 (.go 0) ++
      .begin (.receive (.message "hi" {})) :: List.replicate 3 (.go 1))

/-- The handler that waits meanwhile. -/
def overtaken : Serving Unit String String String Bool :=
  { (Serving.fresh (Limiter.behind Limiter.limiting) handler false "/s.S/Do" ()).run called with
    call := ending.state.call }

end Server.Shielded

end RemoteCall
