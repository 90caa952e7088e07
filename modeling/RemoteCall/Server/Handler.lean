import RemoteCall.Server.Call

/-!
# Handlers

A handler is a process that serves one call. Its states are of any type `S`; in each state it has
one `Wish`, and the answer to the wish is its next state. A wish that cannot be granted at once
lets it wait. The last wish is to return, with the response if the shape answers once.

A handler is polled from time to time. Within a poll it goes on until it returns or has to wait,
and nothing stops it; a poll that begins after the call was cancelled drops it instead. So `Task`
keeps apart what happens inside a poll (`awake`, `checking`) and between polls (`spawned`,
`waiting`).
-/

namespace RemoteCall.Server

/-- What a handler sees of its call. -/
structure View (σ : Type) where
  path : String
  headers : Metadata
  cancelled : Bool
  compression : Bool
  shared : σ

/-- What a handler sees of a context. -/
def Context.view {σ : Type} (c : Context σ) : View σ :=
  ⟨c.path, c.headers, c.cancelled, c.compression, c.shared⟩

/-- What a handler wants next, and how it goes on. -/
inductive Wish (σ Req Resp S : Type) where
  /-- Take the next request message. -/
  | pull (go : Result (Option Req) → S)
  /-- Write a response message and wait until the transport accepted it. -/
  | write (message : Resp) (compression : Compression) (go : Result Unit → S)
  | stageHeader (name value : String) (go : S)
  | stageTrailer (name value : String) (go : S)
  | allowCompression (allowed : Bool) (go : S)
  /-- Look at the call. -/
  | observe (go : View σ → S)
  /-- Change what the interceptors and the handler share. -/
  | note (update : σ → σ) (go : S)
  /-- Wait until the call is cancelled or over. -/
  | awaitCancelled (go : S)
  /-- Wait for some milliseconds. -/
  | sleep (milliseconds : Nat) (go : S)
  /-- Leave the context, and the writer if there is one, to somebody else as well. -/
  | lend (go : S)
  /-- Leave the request stream to somebody else. -/
  | lendStream (go : S)
  /-- Return. -/
  | finish (result : Result (Option Resp))

/-- A program for the calls of a method: where it starts, and what it wants in each state. -/
structure Handler (σ Req Resp S : Type) where
  /-- The first state, for the path of the call and the single request if there is one. -/
  start : (path : String) → Option Req → S
  wish : S → Wish σ Req Resp S

/-- What a waiting handler waits for. -/
inductive Wait (Req S : Type) where
  | request (go : Result (Option Req) → S)
  | receipts (receipts : List Receipt) (go : Result Unit → S)
  | cancellation (go : S)
  | time (due : Nat) (go : S)
  /-- For the acceptance of the one response, after which the handler has returned. -/
  | response (receipts : List Receipt)

/-- How far the task of a handler has come. -/
inductive Task (Req S : Type) where
  /-- The handler was never started. -/
  | absent
  /-- Started, and not polled yet. -/
  | spawned (request : Option Req)
  /-- In the middle of a poll. -/
  | awake (state : S)
  /-- In the middle of a poll, about to find out whether it has to wait. -/
  | checking (wait : Wait Req S)
  /-- Between two polls. -/
  | waiting (wait : Wait Req S)
  /-- Finished, or dropped because the call was cancelled. -/
  | gone

namespace Task

variable {Req S : Type}

/-- Whether the task is there and still has something to do. -/
def isAlive : Task Req S → Bool
  | absent => false
  | gone => false
  | _ => true

def isPolled : Task Req S → Bool
  | awake _ => true
  | checking _ => true
  | _ => false

end Task

end RemoteCall.Server
