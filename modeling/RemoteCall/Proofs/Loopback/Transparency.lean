import RemoteCall.Proofs.Loopback.Progress

/-!
# A call in one process is transparent

However the moves of client, link and handler mix, and in whatever batches the client sends: once
nothing moves any more, the handler has seen and the client reports what the handler does by
itself on the requests of the client (`Exchange.transparent`).
-/

namespace RemoteCall

open Client (itemsOf)
open Server (Story)

variable {τ σ P Req Resp S : Type}

/-- Handler and client know of each other what the handler by itself has to tell. -/
structure Exchange.Transparent (x : Exchange τ σ P Req Resp S) (story : Story Req Resp)
    (c : Conversation τ σ P Req Resp S) : Prop where
  /-- The handler was called once, with the headers and the request of the client. -/
  called : c.seen =
    .invoked x.setup.options.requestHeaders x.request.single? ::
      story.reads.map fun answer => .read (.ok answer)
  /-- It has read requests in order, and their end only behind the last. -/
  reads : ∃ taken ends,
    story.reads = (x.request.readable.take taken).map some ++ List.replicate ends none ∧
      (ends ≠ 0 → x.request.readable.length ≤ taken)
  initial : c.loop.near.call.accumulator.outcome.initial.value? = some (.ok story.initial)
  trailing : c.loop.near.call.accumulator.outcome.trailing.value? = some (.ok story.trailers)
  status : c.loop.near.call.status? = some story.status
  single : x.setup.shape.streamsResponses = false →
    c.loop.near.call.accumulator.response.value? = some story.outcome
  /-- The consumer gets the responses in order, and then the end as often as it asks. -/
  stream : x.setup.shape.streamsResponses = true →
    ∃ ends, c.items = itemsOf story.messages ++
      List.replicate (ends + 1) (MessageStream.ofEnding story.terminal)

/-- Once nothing moves any more, the call has gone as if there were nothing between the client and
the handler. -/
theorem Exchange.transparent {x : Exchange τ σ P Req Resp S} {story : Story Req Resp}
    {c : Conversation τ σ P Req Resp S} (tells : x.Tells story)
    (requests : ∀ message ∈ x.request.messages, x.CarriesRequest message)
    (responses : ∀ message ∈ story.messages, x.CarriesResponse message) (reached : x.Reaches c)
    {now : Nat} (quiet : c.Quiet now) : x.Transparent story c := by
  obtain ⟨moves, live | ⟨atEnd, -⟩⟩ := reached.underway tells requests responses
  · exact absurd quiet live.progress
  · obtain ⟨call, waits, active, -, heard⟩ := atEnd.near
    refine ⟨atEnd.seen, tells.reads_prefix, ?_, ?_, ?_, ?_, ?_⟩
    · rw [active]
      exact heard.initial
    · rw [active]
      exact heard.trailing
    · rw [active]
      exact heard.status
    · intro single
      rw [active]
      exact heard.response.value? single
    · intro streams
      unfold Conversation.items
      rw [active]
      exact heard.items streams

/-! ### An echo -/

namespace Echo

/-- How far an echo has come. -/
inductive Progress where
  | opening
  | listening
  | answering (message : String)
  | leaving

/-- Sends every text back, behind a header of its own. -/
def handler : Server.Handler Unit String String Progress where
  start _ _ := .opening
  wish
    | .opening => .stageHeader "x-echo" "on" .listening
    | .listening => .pull fun
      | .ok (some message) => .answering message
      | _ => .leaving
    | .answering message => .write message .deferred fun _ => .listening
    | .leaving => .finish (.ok none)

/-- A call that sends one text to the echo. -/
def exchange : Exchange Unit Unit String String String Progress where
  setup := { path := "/echo.Echo/Collect", shape := .bidirectional, requests := .verbatim,
             responses := .verbatim }
  service := {
    method := { shape := .bidirectional, requests := .verbatim, responses := .verbatim }
    handler := handler
    compression := true
    path := "/echo.Echo/Collect"
    shared := ()
    plain := rfl }
  request := .stream [("hello", .deferred)]
  shared := ()
  plain := rfl
  patient := rfl
  path := rfl
  shape := rfl
  fits := rfl

/-- What the echo has to tell. -/
def story : Server.Story String String where
  reads := [some "hello", none]
  initial := exchange.desk.context.stageHeader "x-echo" "on" |>.responseHeaders
  responses := [("hello", .compressed true)]
  status := .success
  trailers := .empty
  wishes := 5

/-- The conversation after the client has sent everything and nothing moves any more. -/
def settled : Conversation Unit Unit String String String Progress :=
  let c := exchange.start 0
  settleWithin (Conversation.move? · 0) 50
    { c with loop := c.loop.request (c.loop.near.submit c.unsent), unsent := [] }

theorem tells_story : exchange.Tells story := by
  let staged := exchange.desk.used (.stageHeader "x-echo" "on")
  have leaves : exchange.service.Runs staged.turned.answered.turned .leaving _ := .succeed rfl rfl
  have ends : exchange.service.Runs staged.turned.answered .listening _ := .read rfl rfl leaves
  have answers : exchange.service.Runs staged.turned (.answering "hello") _ := .write rfl rfl ends
  have reads : exchange.service.Runs staged .listening _ := .read rfl rfl answers
  exact .use rfl reads

theorem quiet_settled : settled.Quiet 0 :=
  ⟨Option.isNone_iff_eq_none.mp (by decide +kernel),
    Or.inl (List.isEmpty_iff.mp (by decide +kernel))⟩

theorem reaches_settled : exchange.Reaches settled := by
  have some : (exchange.start 0).unsent ≠ [] := List.cons_ne_nil _ _
  have submitted := (Exchange.Reaches.start 0).step (.move (.submit (List.append_nil _).symm some))
  exact submitted.settle 0 50

/-- The echo brings the text back. -/
theorem transparent_settled : exchange.Transparent story settled :=
  Exchange.transparent tells_story (fun message _ => ⟨message, rfl, rfl⟩)
    (fun message _ => ⟨message, rfl, rfl⟩) reaches_settled quiet_settled

end Echo

end RemoteCall
