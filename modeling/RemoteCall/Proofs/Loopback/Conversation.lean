import RemoteCall.Loopback
import RemoteCall.Proofs.Client.Hearing
import RemoteCall.Proofs.Client.Requesting

/-!
# Conversations in one process

An `Exchange` is a call over a link to a service, without interceptors, without a deadline and
with a request that fits its shape. A `Conversation` is such a call on its way, together with
what its client has yet to send, what the handler has seen, and what pulls of the response stream
have shown. Its parties take turns in any order (`Conversation.Step`); the client sends its
request in batches of any size and never cancels.
-/

namespace RemoteCall

open Client (Active Setup)
open Server (Desk Input Service Sight Story)

variable {τ σ P Req Resp S : Type}

/-- What a client wants to request. -/
inductive Request (Req : Type) where
  | one (message : Req)
  /-- A stream of messages, each with a wish about compression. -/
  | stream (messages : List (Req × Compression))

namespace Request

/-- Whether the messages are sent as a stream. -/
def isStream : Request Req → Bool
  | one _ => false
  | stream _ => true

def messages : Request Req → List Req
  | one message => [message]
  | stream messages => messages.map Prod.fst

/-- The message that the handler is started with. -/
def single? : Request Req → Option Req
  | one message => some message
  | stream _ => none

/-- The messages that the handler can read. -/
def readable : Request Req → List Req
  | one _ => []
  | stream messages => messages.map Prod.fst

end Request

/-- A call to a service of its shape. -/
structure Exchange (τ σ P Req Resp S : Type) where
  setup : Setup τ P Req Resp
  service : Service σ P Req Resp S
  request : Request Req
  /-- What the client's side shares. -/
  shared : τ
  plain : setup.chain = .empty
  patient : setup.options.timeout = none
  path : service.path = setup.path
  shape : service.method.shape = setup.shape
  fits : request.isStream = setup.shape.streamsRequests

/-- How often a pump has yet to start or to stop. -/
def Pump.turns : Pump → Nat
  | starting => 2
  | running => 1
  | _ => 0

/-- How often the server has yet to let go of the call. -/
def FarEnd.holds (far : FarEnd σ P Req Resp S) : Nat :=
  match far.serving with
  | some serving => if serving.dissolved then 0 else 1
  | none => 1

/-- A call on its way. -/
structure Conversation (τ σ P Req Resp S : Type) where
  loop : Loopback τ σ P Req Resp S
  /-- What the client has yet to send. -/
  unsent : List (RequestPart Req)
  /-- What the handler has seen. -/
  seen : List (Sight Req) := []
  /-- What pulls of the response stream have shown. -/
  shown : List (Result (Option Resp)) := []

/-- What the handler behind a link sees in its next move. -/
def FarEnd.sights (far : FarEnd σ P Req Resp S) : List (Sight Req) :=
  match far.serving with
  | some serving => serving.sights
  | none => []

/-- A handler in the middle of a poll goes on. -/
theorem FarEnd.isSome_moveTask?_of_isPolled {far : FarEnd σ P Req Resp S}
    (polled : far.isPolled = true) (now : Nat) : (far.moveTask? now).isSome = true := by
  unfold isPolled at polled
  unfold moveTask?
  cases served : far.serving with
  | none =>
    rw [served] at polled
    cases polled
  | some s =>
    rw [served] at polled
    rw [Option.isSome_map]
    unfold Server.Serving.moveTask?
    cases task : s.task with
    | awake state => rfl
    | checking wait =>
      simp only
      cases wait.resume? now far.responseSignals s.call <;> rfl
    | absent => simp [task, Server.Task.isPolled] at polled
    | spawned request => simp [task, Server.Task.isPolled] at polled
    | waiting wait => simp [task, Server.Task.isPolled] at polled
    | gone => simp [task, Server.Task.isPolled] at polled

namespace Conversation

/-- The conversation with another state behind the link. -/
def withFar (c : Conversation τ σ P Req Resp S) (far : FarEnd σ P Req Resp S) :
    Conversation τ σ P Req Resp S :=
  { c with loop := { c.loop with far } }

/-- One move of a party. -/
inductive Move (c : Conversation τ σ P Req Resp S) : Conversation τ σ P Req Resp S → Prop where
  /-- The client sends some of what it has yet to send, and waits for the acceptance. -/
  | submit {batch behind : List (RequestPart Req)} (next : c.unsent = batch ++ behind)
      (some : batch ≠ []) :
      Move c { c with loop := c.loop.request (c.loop.near.submit batch), unsent := behind }
  | serve {far : FarEnd σ P Req Resp S} (moved : c.loop.far.serve? = some far) :
      Move c (c.withFar far)
  | task {now : Nat} {far : FarEnd σ P Req Resp S} (moved : c.loop.far.moveTask? now = some far) :
      Move c { c.withFar far with seen := c.seen ++ c.loop.far.sights }
  | farErrand {far : FarEnd σ P Req Resp S} (moved : c.loop.far.moveErrand? = some far) :
      Move c (c.withFar far)
  | farDissolve {far : FarEnd σ P Req Resp S} (moved : c.loop.far.dissolve? = some far) :
      Move c (c.withFar far)
  | deliver {loop : Loopback τ σ P Req Resp S} (moved : c.loop.deliver? = some loop) :
      Move c { c with loop }
  | nearErrand {loop : Loopback τ σ P Req Resp S} (moved : c.loop.moveErrand? = some loop) :
      Move c { c with loop }
  | expire {now : Nat} {loop : Loopback τ σ P Req Resp S} (moved : c.loop.expire? now = some loop) :
      Move c { c with loop }
  | nearDissolve {loop : Loopback τ σ P Req Resp S} (moved : c.loop.dissolve? = some loop) :
      Move c { c with loop }

inductive Step (c : Conversation τ σ P Req Resp S) : Conversation τ σ P Req Resp S → Prop where
  | move {c' : Conversation τ σ P Req Resp S} (move : c.Move c') : Step c c'
  /-- The client polls its response stream. -/
  | pull :
      Step c { c with
        loop := { c.loop with near := { c.loop.near with call := c.loop.near.call.pull.2 } }
        shown := c.shown ++ c.loop.near.call.pull.1.toList }
  /-- The clock moves. -/
  | tick (now : Nat) : Step c { c with loop := c.loop.tick now }

/-- Whether the next move in the order of `Loopback.move?` is one of the handler. -/
def isTaskTurn (c : Conversation τ σ P Req Resp S) (now : Nat) : Bool :=
  (c.loop.far.isPolled || c.loop.far.serve?.isNone) && (c.loop.far.moveTask? now).isSome

/-- One move in the order of `Loopback.move?`. -/
def move? (c : Conversation τ σ P Req Resp S) (now : Nat) :
    Option (Conversation τ σ P Req Resp S) :=
  (c.loop.move? now).map fun loop =>
    let sights := if c.isTaskTurn now then c.loop.far.sights else []
    { c with loop, seen := c.seen ++ sights }

/-- What the parties other than the handler still have to do. A part that is sent is taken once, and
its batch is waited for once. -/
def backlog (c : Conversation τ σ P Req Resp S) : Nat :=
  3 * c.unsent.length + c.loop.near.errands.length + c.loop.far.link.toServer.length +
    c.loop.far.link.serving.turns + c.loop.far.holds

/-- Nothing moves by itself any more, and the client has sent everything or waits for the
acceptance of what it has sent. -/
structure Quiet (c : Conversation τ σ P Req Resp S) (now : Nat) : Prop where
  still : c.loop.move? now = none
  waits : c.unsent = [] ∨ c.loop.near.errands ≠ []

/-- The order of `Loopback.move?` is one of the orders in which the parties can take turns. -/
theorem move_of_move? {c c' : Conversation τ σ P Req Resp S} {now : Nat}
    (moved : c.move? now = some c') : c.Move c' := by
  obtain ⟨loop, taken, rfl⟩ := Option.map_eq_some_iff.mp moved
  clear moved
  simp only
  cases turn : c.isTaskTurn now with
  | true =>
    obtain ⟨first, goes⟩ := (Bool.and_eq_true _ _).mp turn
    obtain ⟨far, task⟩ := Option.isSome_iff_exists.mp goes
    have same : c.loop.move? now = some { c.loop with far } := by
      cases polled : c.loop.far.isPolled with
      | true => simp [Loopback.move?, Loopback.moveFar?, FarEnd.move?, polled, task]
      | false =>
        have unserved : c.loop.far.serve? = none := by simpa [polled] using first
        simp [Loopback.move?, Loopback.moveFar?, FarEnd.move?, polled, task, unserved]
    cases same.symm.trans taken
    exact .task task
  | false =>
    have free : c.loop.far.isPolled = false := by
      cases polled : c.loop.far.isPolled with
      | false => rfl
      | true =>
        have moves := FarEnd.isSome_moveTask?_of_isPolled polled now
        simp [isTaskTurn, polled, moves] at turn
    have unseen : c.seen ++ (if false = true then c.loop.far.sights else []) = c.seen :=
      List.append_nil _
    rw [unseen]
    simp only [Loopback.move?, Loopback.moveFar?, FarEnd.move?, free, Bool.false_eq_true, if_false,
      Option.orElse_eq_orElse, Option.orElse_eq_or, Option.or_eq_some_iff,
      Option.map_eq_some_iff] at taken
    rcases taken with ⟨far, serve | ⟨unserved, task | ⟨-, errand | ⟨-, dissolve⟩⟩⟩, rfl⟩ |
      ⟨-, deliver | ⟨-, errand | ⟨-, expire | ⟨-, dissolve⟩⟩⟩⟩
    · exact .serve serve
    · simp [isTaskTurn, unserved, task] at turn
    · exact .farErrand errand
    · exact .farDissolve dissolve
    · exact .deliver deliver
    · exact .nearErrand errand
    · exact .expire expire
    · exact .nearDissolve dissolve

/-- What the consumer of the response stream has got, and gets if it pulls on to the end. -/
def items (c : Conversation τ σ P Req Resp S) : List (Result (Option Resp)) :=
  c.shown ++ c.loop.near.call.drain.1.flatMap Poll.toList

end Conversation

namespace Exchange

/-- The parts of the request behind its headers. -/
def input (x : Exchange τ σ P Req Resp S) : Input Req :=
  match x.request with
  | .one message => .one message (.compressed x.setup.options.compress)
  | .stream messages =>
    .stream (messages.map fun m => (m.1, .compressed (m.2.resolve x.setup.options.compress)))

/-- What is left to send once the call has started. -/
def script (x : Exchange τ σ P Req Resp S) : List (RequestPart Req) :=
  match x.request with
  | .one _ => []
  | .stream messages => messages.map (fun m => x.setup.message m.1 m.2) ++ [.finish]

/-- The link, and the service behind it. -/
def farEnd (x : Exchange τ σ P Req Resp S) : FarEnd σ P Req Resp S where
  path := x.setup.path
  target := some ⟨x.service.method, x.service.handler⟩
  compression := x.service.compression
  shared := x.service.shared

/-- What the handler finds when it starts. -/
def desk (x : Exchange τ σ P Req Resp S) : Desk σ Req :=
  x.service.desk x.setup.options.requestHeaders x.request.readable

/-- The handler by itself tells this story. -/
def Tells (x : Exchange τ σ P Req Resp S) (story : Story Req Resp) : Prop :=
  x.service.Runs x.desk (x.service.handler.start x.setup.path x.request.single?) story

/-- The codecs carry a request to the server as it is. -/
def CarriesRequest (x : Exchange τ σ P Req Resp S) (message : Req) : Prop :=
  ∃ payload, x.setup.requests.encode message = .ok payload ∧
    x.service.method.requests.decode payload = .ok message

/-- The codecs carry a response to the client as it is. -/
def CarriesResponse (x : Exchange τ σ P Req Resp S) (message : Resp) : Prop :=
  ∃ payload, x.service.method.responses.encode message = .ok payload ∧
    x.setup.responses.decode payload = .ok message

/-- The conversation right after its start. -/
def start (x : Exchange τ σ P Req Resp S) (now : Nat) : Conversation τ σ P Req Resp S where
  loop := .start x.setup x.shared now x.farEnd x.request.single?
  unsent := x.script

/-- The conversations that an exchange can come to. -/
inductive Reaches (x : Exchange τ σ P Req Resp S) : Conversation τ σ P Req Resp S → Prop where
  | start (now : Nat) : Reaches x (x.start now)
  | step {c c' : Conversation τ σ P Req Resp S} (reached : Reaches x c) (step : c.Step c') :
      Reaches x c'

/-- What the moves of a conversation lead to is reached. -/
theorem Reaches.settle {x : Exchange τ σ P Req Resp S} {c : Conversation τ σ P Req Resp S}
    (reached : x.Reaches c) (now moves : Nat) :
    x.Reaches (settleWithin (Conversation.move? · now) moves c) := by
  induction moves generalizing c with
  | zero => exact reached
  | succ moves ih =>
    unfold settleWithin
    cases moved : c.move? now with
    | none => exact reached
    | some c' => exact ih (reached.step (.move (Conversation.move_of_move? moved)))

end Exchange

end RemoteCall
