import RemoteCall.Proofs.MessageStream
import RemoteCall.Proofs.Server.Emission

/-!
# A served call attends to its handler

`Service.Attends` describes a served call without interceptors by what is still to happen: the
request parts that are coming, the parts of the response that it has yet to emit, and what its
handler has yet to see. The last two come from the direct run of the handler from where it
stands. A request part that arrives and a move of the handler each keep the description, with
what they used up taken off its front; so the handler sees and says what it does by itself,
however its moves and the arrivals mix.
-/

namespace RemoteCall.Server

variable {σ P Req Resp S : Type}

/-- How the calls of a path are served, without interceptors. -/
structure Service (σ P Req Resp S : Type) where
  method : Method σ P Req Resp
  handler : Handler σ Req Resp S
  /-- The server permits compressed messages. -/
  compression : Bool
  path : String
  shared : σ
  plain : method.chain = .empty

/-- What a client requests: one message, or a stream of messages. -/
inductive Input (Req : Type) where
  | one (message : Req) (flags : MessageFlags)
  | stream (messages : List (Req × MessageFlags))

namespace Input

/-- Whether the messages come as a stream. -/
def isStream : Input Req → Bool
  | one _ _ => false
  | stream _ => true

/-- What the handler is started with. -/
def request? : Input Req → Option Req
  | one message _ => some message
  | stream _ => none

/-- What the handler can read. -/
def unread : Input Req → List Req
  | one _ _ => []
  | stream messages => messages.map Prod.fst

/-- The parts behind the headers. -/
def parts : Input Req → List (RequestPart Req)
  | one message flags => [.message message flags, .finish]
  | stream messages => messages.map (fun m => .message m.1 m.2) ++ [.finish]

end Input

/-- What a handler sees of its client. -/
inductive Sight (Req : Type) where
  /-- It is called, with these headers on its context. -/
  | invoked (headers : Metadata) (request : Option Req)
  /-- A read is answered. -/
  | read (answer : Result (Option Req))

/-- What a handler sees in a story, once it was called. -/
def Story.sights (story : Story Req Resp) : List (Sight Req) :=
  story.reads.map fun answer => .read (.ok answer)

/-- What a handler sees when its wait is looked at. -/
def Wait.sights (call : Call σ Req) : Wait Req S → List (Sight Req)
  | .request _ =>
    match call.requests.pull.1 with
    | .ready answer => [.read answer]
    | .pending => []
  | _ => []

/-- What a handler sees in its next move. -/
def Serving.sights (s : Serving σ P Req Resp S) : List (Sight Req) :=
  match s.task with
  | .spawned request => if s.isCancelled then [] else [.invoked s.call.context.headers request]
  | .checking wait => wait.sights s.call
  | .waiting wait => if s.isCancelled then [] else wait.sights s.call
  | _ => []

/-- The moves of a task in a wait, and behind it in a story with so many wishes left. -/
def Wait.effort (wishes : Nat) : Wait Req S → Nat
  | .request _ => 3 * wishes + 1
  | _ => 3 * wishes + 4

/-- No task of a story with so many wishes left makes more moves: a wish takes up to three, to
make it, to start waiting and to go on. -/
def Task.effort (wishes : Nat) : Task Req S → Nat
  | .spawned _ => 3 * wishes + 4
  | .awake _ => 3 * wishes + 3
  | .checking wait => wait.effort wishes + 1
  | .waiting wait => wait.effort wishes
  | _ => 0

/-- Whether the handler was started or will never be. -/
def Inbound.isPast : Inbound Req → Bool
  | .streaming => true
  | .running => true
  | .closed => true
  | _ => false

/-- The end was emitted, and the handler is not started any more. -/
structure Call.IsOver (call : Call σ Req) : Prop where
  ended : call.ended = true
  past : call.inbound.isPast = true

/-- With these parts coming, the handler can read these requests to their end. -/
inductive Call.Fed (shape : CallShape) (call : Call σ Req) :
    List (RequestPart Req) → List Req → Prop where
  | single (single : shape.streamsRequests = false) (running : call.inbound = .running) :
      Fed shape call [] []
  | streaming {queue : List Req} {later : List (Req × MessageFlags)}
      (streams : shape.streamsRequests = true) (streaming : call.inbound = .streaming)
      (holds : call.requests.Holds queue none) :
      Fed shape call (Input.stream later).parts (queue ++ later.map Prod.fst)
  | complete {queue : List Req} (streams : shape.streamsRequests = true)
      (running : call.inbound = .running) (holds : call.requests.Holds queue (some (.ok ()))) :
      Fed shape call [] queue

/-- A part that can be decoded reaches the request side. -/
theorem Call.receive_plain {method : Method σ P Req Resp} (plain : method.chain = .empty)
    {payload : RequestPart P} {part : RequestPart Req}
    (decodes : payload.tryMap method.requests.decode = .ok part) (call : Call σ Req) :
    call.receive method payload = Pass.onRequest method part (.start call) := by
  unfold receive
  rw [decodes, plain]
  rfl

/-- Once it is past the start of the handler, the request side takes what comes and asks for
nothing. -/
theorem Pass.advance_of_isPast {call : Call σ Req} (past : call.inbound.isPast = true)
    (streams : Bool) (part : RequestPart Req) :
    (advance streams call part).2 = .ignore ∧
      (advance streams call part).1.inbound.isPast = true ∧
      (advance streams call part).1.ended = call.ended ∧
      (advance streams call part).1.sent = call.sent := by
  unfold advance
  cases inbound : call.inbound with
  | idle => rw [inbound] at past; cases past
  | awaiting => rw [inbound] at past; cases past
  | holding message => rw [inbound] at past; cases past
  | running => exact ⟨rfl, by rw [inbound]; rfl, rfl, rfl⟩
  | closed => exact ⟨rfl, by rw [inbound]; rfl, rfl, rfl⟩
  | streaming =>
    cases part with
    | headers m => exact ⟨rfl, by rw [inbound]; rfl, rfl, rfl⟩
    | message message flags => exact ⟨rfl, rfl, rfl, rfl⟩
    | finish => exact ⟨rfl, rfl, rfl, rfl⟩

/-- What the handler can read depends on the request side only. -/
theorem Call.Fed.of_eq {shape : CallShape} {call call' : Call σ Req}
    {coming : List (RequestPart Req)} {unread : List Req} (fed : call.Fed shape coming unread)
    (inbound : call'.inbound = call.inbound) (requests : call'.requests = call.requests) :
    call'.Fed shape coming unread := by
  cases fed with
  | single single running => exact .single single (inbound.trans running)
  | streaming streams streaming holds =>
    exact .streaming streams (inbound.trans streaming) (requests ▸ holds)
  | complete streams running holds =>
    exact .complete streams (inbound.trans running) (requests ▸ holds)

/-- A handler that can read was started. -/
theorem Call.Fed.isPast {shape : CallShape} {call : Call σ Req}
    {coming : List (RequestPart Req)} {unread : List Req} (fed : call.Fed shape coming unread) :
    call.inbound.isPast = true := by
  cases fed with
  | single single running => rw [running]; rfl
  | streaming streams streaming holds => rw [streaming]; rfl
  | complete streams running holds => rw [running]; rfl

/-- A part that comes leaves the handler as much to read as before. -/
theorem Call.Fed.advance {shape : CallShape} {call : Call σ Req} {part : RequestPart Req}
    {coming : List (RequestPart Req)} {unread : List Req}
    (fed : call.Fed shape (part :: coming) unread) :
    ∃ inbound requests,
      Pass.advance shape.streamsRequests call part =
        ({ call with inbound, requests }, .ignore) ∧
      { call with inbound, requests : Call σ Req }.Fed shape coming unread := by
  generalize all : part :: coming = parts at fed
  cases fed with
  | single single running => cases all
  | complete streams running holds => cases all
  | @streaming queue later streams streaming holds =>
    cases later with
    | nil =>
      cases all
      refine ⟨.running, (call.requests.finishWith (.ok ())).2, ?_, ?_⟩
      · simp only [Pass.advance, streaming]
      · rw [List.map_nil, List.append_nil]
        exact .complete streams rfl (holds.finishWith _)
    | cons first later =>
      cases all
      refine ⟨.streaming, (call.requests.push first.1).2, ?_, ?_⟩
      · simp only [Pass.advance, streaming]
      · rw [List.map_cons, List.append_cons]
        exact .streaming streams rfl (holds.push first.1)

/-- A read takes the first request that is left. It waits only for a part that is coming. -/
theorem Call.Fed.pull {shape : CallShape} {call : Call σ Req} {coming : List (RequestPart Req)}
    {unread : List Req} (fed : call.Fed shape coming unread)
    (streams : shape.streamsRequests = true) :
    call.requests.pull.1 = .pending ∧ coming ≠ [] ∨
      call.requests.pull.1 = .ready (.ok unread.head?) ∧
        { call with requests := call.requests.pull.2 : Call σ Req }.Fed shape coming
          unread.tail := by
  cases fed with
  | single single running =>
    rw [single] at streams
    cases streams
  | @streaming queue later streams streaming holds =>
    cases queue with
    | nil =>
      have nonempty : (Input.stream later).parts ≠ [] := by
        unfold Input.parts
        simp
      exact Or.inl ⟨holds.pull_nothing.1, nonempty⟩
    | cons item rest =>
      obtain ⟨answer, holds⟩ := holds.pull_item
      exact Or.inr ⟨answer, .streaming streams streaming holds⟩
  | complete streams running holds =>
    cases unread with
    | nil =>
      obtain ⟨answer, holds⟩ := holds.pull_ending
      exact Or.inr ⟨answer, .complete streams running holds⟩
    | cons item rest =>
      obtain ⟨answer, holds⟩ := holds.pull_item
      exact Or.inr ⟨answer, .complete streams running holds⟩

namespace Service

variable (x : Service σ P Req Resp S)

def serving (call : Call σ Req) (task : Task Req S) : Serving σ P Req Resp S where
  method := x.method
  handler := x.handler
  compression := x.compression
  call := call
  task := task

/-- The direct runs of the handler. -/
abbrev Runs (d : Desk σ Req) (state : S) (story : Story Req Resp) : Prop :=
  x.handler.Runs x.method.shape x.compression d state story

/-- What the handler finds when it starts. -/
def desk (headers : Metadata) (unread : List Req) : Desk σ Req where
  unread := unread
  context := { path := x.path, headers, shared := x.shared }

/-- The call while the one message of its request is expected or held. -/
def expecting (headers : Metadata) (inbound : Inbound Req) : Call σ Req where
  context := (x.desk headers []).context
  inbound := inbound

/-- Behind the wait, this story is left for the handler. Receipts are those of parts handed over
before. -/
inductive WaitTells (sent : Nat) : Wait Req S → Desk σ Req → Story Req Resp → Prop where
  | request {go : Result (Option Req) → S} {d : Desk σ Req} {story : Story Req Resp}
      (streams : x.method.shape.streamsRequests = true)
      (runs : x.Runs d.turned (go (.ok d.unread.head?)) story) :
      WaitTells sent (.request go) d (story.afterRead d.unread.head?)
  | receipts {batch : List Receipt} {go : Result Unit → S} {d : Desk σ Req}
      {story : Story Req Resp} (issued : ∀ r ∈ batch, ∃ t < sent, r = .issued t)
      (runs : x.Runs d (go (.ok ())) story) : WaitTells sent (.receipts batch go) d story
  | response {batch : List Receipt} {d : Desk σ Req}
      (issued : ∀ r ∈ batch, ∃ t < sent, r = .issued t) :
      WaitTells sent (.response batch) d (.ending d .success)

/-- This is left for the task to see, and this story to be told. -/
inductive TaskTells (sent : Nat) :
    Task Req S → Desk σ Req → List (Sight Req) → Story Req Resp → Prop where
  | spawned {request : Option Req} {d : Desk σ Req} {story : Story Req Resp}
      (runs : x.Runs d (x.handler.start d.context.path request) story) :
      TaskTells sent (.spawned request) d (.invoked d.context.headers request :: story.sights)
        story
  | awake {state : S} {d : Desk σ Req} {story : Story Req Resp} (runs : x.Runs d state story) :
      TaskTells sent (.awake state) d story.sights story
  | checking {wait : Wait Req S} {d : Desk σ Req} {story : Story Req Resp}
      (tells : x.WaitTells sent wait d story) :
      TaskTells sent (.checking wait) d story.sights story
  | waiting {wait : Wait Req S} {d : Desk σ Req} {story : Story Req Resp}
      (tells : x.WaitTells sent wait d story) :
      TaskTells sent (.waiting wait) d story.sights story

/-- This desk lies before the handler of a call, with these request parts coming. -/
structure Faces (call : Call σ Req) (coming : List (RequestPart Req)) (d : Desk σ Req) :
    Prop where
  context : call.context = d.context
  calm : d.context.cancelled = false
  opened : call.headersSent = d.opened.isSome
  flows : call.Flows
  fed : call.Fed x.method.shape coming d.unread

/-- With these request parts coming, the served call has yet to emit this response, and its
handler has yet to see this, in at most so many moves. -/
inductive Attends : Call σ Req → Task Req S → List (RequestPart Req) →
    List (ResponsePart Resp) → List (Sight Req) → (effort : Nat) → Prop where
  | idle {headers : Metadata} {input : Input Req} {story : Story Req Resp}
      (fits : input.isStream = x.method.shape.streamsRequests)
      (runs : x.Runs (x.desk headers input.unread) (x.handler.start x.path input.request?)
        story) :
      Attends (.fresh x.path x.shared) .absent (.headers headers :: input.parts)
        (story.parts false) (.invoked headers input.request? :: story.sights)
        (3 * story.wishes + 4)
  | awaiting {headers : Metadata} {message : Req} {flags : MessageFlags}
      {story : Story Req Resp} (single : x.method.shape.streamsRequests = false)
      (runs : x.Runs (x.desk headers []) (x.handler.start x.path (some message)) story) :
      Attends (x.expecting headers .awaiting) .absent [.message message flags, .finish]
        (story.parts false) (.invoked headers (some message) :: story.sights)
        (3 * story.wishes + 4)
  | holding {headers : Metadata} {message : Req} {story : Story Req Resp}
      (single : x.method.shape.streamsRequests = false)
      (runs : x.Runs (x.desk headers []) (x.handler.start x.path (some message)) story) :
      Attends (x.expecting headers (.holding message)) .absent [.finish]
        (story.parts false) (.invoked headers (some message) :: story.sights)
        (3 * story.wishes + 4)
  | begun {call : Call σ Req} {task : Task Req S} {coming : List (RequestPart Req)}
      {d : Desk σ Req} {story : Story Req Resp} {left : List (Sight Req)}
      (faces : x.Faces call coming d) (tells : x.TaskTells call.sent task d left story) :
      Attends call task coming (story.parts d.opened.isSome) left (task.effort story.wishes)
  | ended {call : Call σ Req} {coming : List (RequestPart Req)} (atEnd : call.IsOver) :
      Attends call .gone coming [] [] 0

variable {x}

/-- A request that starts the handler, on a call that has nothing else to ask. -/
theorem receive_serving {call call' : Call σ Req} {task : Task Req S} {payload : RequestPart P}
    {part : RequestPart Req} {reaction : Pass.Reaction Req}
    (decodes : payload.tryMap x.method.requests.decode = .ok part)
    (advances : Pass.advance x.method.shape.streamsRequests call part = (call', reaction))
    (accepts : ∀ reason, reaction ≠ .reject reason) :
    (x.serving call task).receive payload =
      (x.serving call' (match reaction with
        | .start request => .spawned request
        | _ => task), []) := by
  unfold Serving.receive
  rw [show (x.serving call task).call.receive (x.serving call task).method payload = _ from
    Call.receive_plain x.plain decodes call]
  unfold Pass.onRequest
  cases reaction with
  | ignore => simp only [Pass.start, advances]; rfl
  | start request => simp only [Pass.start, advances]; rfl
  | reject reason => exact absurd rfl (accepts reason)

/-- A request part that arrives is taken off the front of what is coming. -/
theorem Attends.receive {call : Call σ Req} {task : Task Req S} {part : RequestPart Req}
    {coming : List (RequestPart Req)} {future : List (ResponsePart Resp)}
    {left : List (Sight Req)} {effort : Nat}
    (attends : x.Attends call task (part :: coming) future left effort)
    {payload : RequestPart P} (decodes : payload.tryMap x.method.requests.decode = .ok part) :
    ∃ call' task', (x.serving call task).receive payload = (x.serving call' task', []) ∧
      call'.sent = call.sent ∧ x.Attends call' task' coming future left effort := by
  cases attends with
  | @idle headers input story fits runs =>
    cases input with
    | one message flags =>
      have single : x.method.shape.streamsRequests = false := fits.symm
      have advances : Pass.advance x.method.shape.streamsRequests (.fresh x.path x.shared)
          (.headers headers) = (x.expecting headers .awaiting, .ignore) := by
        rw [single]
        rfl
      exact ⟨_, _, receive_serving decodes advances (by simp), rfl, .awaiting single runs⟩
    | stream messages =>
      have streams : x.method.shape.streamsRequests = true := fits.symm
      have advances : Pass.advance x.method.shape.streamsRequests (.fresh x.path x.shared)
          (.headers headers) = (x.expecting headers .streaming, .start none) := by
        rw [streams]
        rfl
      have fed : (x.expecting headers .streaming).Fed x.method.shape
          (Input.stream messages).parts ([] ++ messages.map Prod.fst) :=
        .streaming streams rfl MessageStream.holds_fresh
      exact ⟨_, _, receive_serving decodes advances (by simp), rfl,
        .begun ⟨rfl, rfl, rfl, ⟨rfl, rfl, rfl⟩, fed⟩ (.spawned runs)⟩
  | @awaiting headers message flags story single runs =>
    have advances : Pass.advance x.method.shape.streamsRequests (x.expecting headers .awaiting)
        (.message message flags) = (x.expecting headers (.holding message), .ignore) := rfl
    exact ⟨_, _, receive_serving decodes advances (by simp), rfl, .holding single runs⟩
  | @holding headers message story single runs =>
    have advances : Pass.advance x.method.shape.streamsRequests
        (x.expecting headers (.holding message)) .finish =
          (x.expecting headers .running, .start (some message)) := rfl
    exact ⟨_, _, receive_serving decodes advances (by simp), rfl,
      .begun ⟨rfl, rfl, rfl, ⟨rfl, rfl, rfl⟩, .single single rfl⟩ (.spawned runs)⟩
  | begun faces tells =>
    -- Only the request side changes, and the handler finds as much to read as before.
    obtain ⟨context, calm, opened, ⟨ended, suppressed, order⟩, fed⟩ := faces
    obtain ⟨inbound, requests, advances, later⟩ := fed.advance
    exact ⟨_, _, receive_serving decodes advances (by simp), rfl,
      .begun ⟨context, calm, opened, ⟨ended, suppressed, order⟩, later⟩ tells⟩
  | ended atEnd =>
    obtain ⟨ignores, past, ended, sent⟩ :=
      Pass.advance_of_isPast atEnd.past x.method.shape.streamsRequests part
    have advances : Pass.advance x.method.shape.streamsRequests call part =
        ((Pass.advance x.method.shape.streamsRequests call part).1, .ignore) :=
      Prod.ext rfl ignores
    exact ⟨_, _, receive_serving decodes advances (by simp), sent,
      .ended ⟨ended.trans atEnd.ended, past⟩⟩

end Service

end RemoteCall.Server
