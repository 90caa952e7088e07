import RemoteCall.Proofs.Link
import RemoteCall.Proofs.Loopback.Conversation
import RemoteCall.Proofs.Server.Aftermath
import RemoteCall.Proofs.Server.TaskMoves

/-!
# The course of a conversation

A conversation is `Live` until the end of the response reaches its client, and `Over` from then
on. While it is live, the parts in the queues of the link, what is left on both sides, and what
client and handler have seen already make up the request and the story of the handler. A
conversation starts live.
-/

namespace RemoteCall

open Client (Active Heard Hears Script Setup)
open Server (Input Service Sight Story)

variable {τ σ P Req Resp S : Type}

/-- Two relations between the entries of lists, one after the other. -/
theorem forall₂_comp {α β γ : Type} {r : α → β → Prop} {s : β → γ → Prop} {t : α → γ → Prop}
    {as : List α} {bs : List β} {cs : List γ} (first : List.Forall₂ r as bs)
    (second : List.Forall₂ s bs cs) (both : ∀ a ∈ as, ∀ b c, r a b → s b c → t a c) :
    List.Forall₂ t as cs := by
  induction first generalizing cs with
  | nil =>
    cases second
    exact .nil
  | cons related rest ih =>
    cases second with
    | cons next later =>
      have here := both _ List.mem_cons_self _ _ related next
      exact .cons here (ih later fun a member => both a (List.mem_cons_of_mem _ member))

/-- A client that does nothing but wait holds on to its call, and nothing expires. -/
theorem Loopback.still_of_active {loop : Loopback τ σ P Req Resp S} {setup : Setup τ P Req Resp}
    {call : Client.Call τ Resp} {waits : List (Result (List Receipt))}
    (active : loop.near = setup.active call waits) (now : Nat) :
    loop.expire? now = none ∧ loop.dissolve? = none := by
  unfold Loopback.expire? Loopback.dissolve?
  rw [active]
  exact ⟨rfl, rfl⟩

/-- The clock changes nothing where nothing waits for it. -/
theorem Loopback.tick_of_still {loop : Loopback τ σ P Req Resp S} {now : Nat}
    (patient : loop.expire? now = none)
    (same : ∀ s, loop.far.serving = some s → s.tick now = s) : loop.tick now = loop := by
  have far : loop.far.tick now = loop.far := by
    unfold FarEnd.tick
    cases serving : loop.far.serving with
    | none => rw [Option.map_none, ← serving]
    | some s => rw [Option.map_some, same s serving, ← serving]
  unfold Loopback.tick
  rw [patient]
  show { loop with far := loop.far.tick now } = loop
  rw [far]

namespace Exchange

variable (x : Exchange τ σ P Req Resp S)

/-- The codecs carry the messages of these request parts. -/
def CarriesRequests (parts : List (RequestPart Req)) : Prop :=
  ∀ message flags, RequestPart.message message flags ∈ parts → x.CarriesRequest message

/-- The codecs carry the messages of these response parts. -/
def CarriesResponses (parts : List (ResponsePart Resp)) : Prop :=
  ∀ message flags, ResponsePart.message message flags ∈ parts → x.CarriesResponse message

/-- The part waits in the queue to the server. -/
def Arrives (part : RequestPart Req) (entry : ToServer P) : Prop :=
  ∃ payload ticket, entry = .part payload ticket ∧
    payload.tryMap x.service.method.requests.decode = .ok part

/-- The part waits in the queue to the client. -/
def Returns (part : ResponsePart Resp) (entry : ResponsePart P × Nat) : Prop :=
  entry.1.tryMap x.setup.responses.decode = .ok part

/-- The link leads to the service. -/
def Aims (far : FarEnd σ P Req Resp S) : Prop :=
  far.path = x.service.path ∧
    far.target = some ⟨x.service.method, x.service.handler⟩ ∧
    far.compression = x.service.compression ∧
    far.shared = x.service.shared

/-- The service is, or will be, in this state, with these request parts coming, this response
left, and this left for the handler to see. -/
structure Attended (far : FarEnd σ P Req Resp S) (coming : List (RequestPart Req))
    (future : List (ResponsePart Resp)) (left : List (Sight Req)) (effort : Nat)
    (call : Server.Call σ Req) (task : Server.Task Req S) : Prop where
  state : far.serving = some (x.service.serving call task) ∧ far.link.serving = .running ∨
    far.serving = none ∧ far.link.serving = .starting ∧ x.Aims far ∧
      call = .fresh x.service.path x.service.shared ∧ task = .absent
  sent : call.sent = far.link.responseSignals.length
  attends : x.service.Attends call task coming future left effort

/-- The client in a live conversation: it waits for the acceptance of these batches. -/
structure Listens (story : Story Req Resp) (c : Conversation τ σ P Req Resp S)
    (coming : List (ResponsePart Resp)) (call : Client.Call τ Resp)
    (waits : List (Result (List Receipt))) : Prop where
  active : c.loop.near = x.setup.active call waits
  running : call.terminated = false
  script : Script c.unsent call.closed
  carries : x.CarriesRequests c.unsent
  sent : call.sent = c.loop.far.link.requestSignals.length
  issued : ∀ batch ∈ waits, ∃ receipts, batch = .ok receipts ∧
    ∀ r ∈ receipts, ∃ t < call.sent, r = .issued t
  hears : Hears x.setup.shape story coming call.intake c.shown

/-- The parts `out` and `back` are in the queues of the link, `future` is left for the service to
emit and `left` for the handler to see. -/
structure Proceeds (story : Story Req Resp) (c : Conversation τ σ P Req Resp S)
    (out : List (RequestPart Req)) (back future : List (ResponsePart Resp))
    (left : List (Sight Req)) (effort : Nat) (near : Client.Call τ Resp)
    (waits : List (Result (List Receipt))) (call : Server.Call σ Req) (task : Server.Task Req S) :
    Prop where
  flows : c.loop.far.link.Flows
  arrives : List.Forall₂ x.Arrives out c.loop.far.link.toServer
  returns : List.Forall₂ x.Returns back c.loop.far.link.toClient
  carries : x.CarriesResponses future
  listens : x.Listens story c (back ++ future) near waits
  attended : x.Attended c.loop.far (out ++ c.unsent) future left effort call task
  seen : c.seen ++ left = .invoked x.setup.options.requestHeaders x.request.single? :: story.sights

/-- The end of the response has not reached the client, and there are at most `moves` more. -/
def Live (story : Story Req Resp) (c : Conversation τ σ P Req Resp S) (moves : Nat) : Prop :=
  ∃ out back future left effort near waits call task,
    x.Proceeds story c out back future left effort near waits call task ∧
      effort + 2 * (back ++ future).length + c.backlog ≤ moves

/-- The end of the response has reached the client. -/
structure Over (story : Story Req Resp) (c : Conversation τ σ P Req Resp S) : Prop where
  near : ∃ call waits, c.loop.near = x.setup.active call waits ∧ call.terminated = true ∧
    Heard x.setup.shape story call.intake c.shown
  far : ∃ serving : Server.Serving σ P Req Resp S,
    c.loop.far.serving = some serving ∧ serving.IsOver
  closed : c.loop.far.link.isOpen = false
  stopped : c.loop.far.link.delivering = .stopped
  dispatched : c.loop.far.link.serving ≠ .starting
  seen : c.seen = .invoked x.setup.options.requestHeaders x.request.single? :: story.sights

variable {x}

/-- What is encoded on one side is decoded to the same on the other. -/
theorem decodes_request {part : RequestPart Req} {payload : RequestPart P}
    (carried : ∀ message flags, part = .message message flags → x.CarriesRequest message)
    (encoded : x.setup.Encoded part payload) :
    payload.tryMap x.service.method.requests.decode = .ok part := by
  cases part with
  | headers m => cases encoded; rfl
  | finish => cases encoded; rfl
  | message message flags =>
    obtain ⟨bytes, encodes, decodes⟩ := carried message flags rfl
    simp only [Setup.Encoded, RequestPart.tryMap, encodes] at encoded
    cases encoded
    simp only [RequestPart.tryMap, decodes]

theorem decodes_response {part : ResponsePart Resp} {payload : ResponsePart P}
    (carried : ∀ message flags, part = .message message flags → x.CarriesResponse message)
    (encoded : x.service.Encoded part payload) :
    payload.tryMap x.setup.responses.decode = .ok part := by
  cases part with
  | headers m => cases encoded; rfl
  | finish status trailers => cases encoded; rfl
  | message message flags =>
    obtain ⟨bytes, encodes, decodes⟩ := carried message flags rfl
    simp only [Service.Encoded, ResponsePart.tryMap, encodes] at encoded
    cases encoded
    simp only [ResponsePart.tryMap, decodes]

theorem CarriesRequests.of_subset {parts fewer : List (RequestPart Req)}
    (carries : x.CarriesRequests parts) (subset : fewer ⊆ parts) : x.CarriesRequests fewer :=
  fun message flags member => carries message flags (subset member)

theorem CarriesResponses.of_subset {parts fewer : List (ResponsePart Resp)}
    (carries : x.CarriesResponses parts) (subset : fewer ⊆ parts) : x.CarriesResponses fewer :=
  fun message flags member => carries message flags (subset member)

theorem CarriesRequests.encodes {parts : List (RequestPart Req)}
    (carries : x.CarriesRequests parts) : x.setup.Encodes parts := by
  intro message flags member
  obtain ⟨payload, encodes, -⟩ := carries message flags member
  exact ⟨payload, encodes⟩

theorem CarriesResponses.encodes {parts : List (ResponsePart Resp)}
    (carries : x.CarriesResponses parts) : x.service.Encodes parts := by
  intro message flags member
  obtain ⟨payload, encodes, -⟩ := carries message flags member
  exact ⟨payload, encodes⟩

/-! ### Batches -/

theorem arrives_of_encoded {batch : List (RequestPart Req)} {payloads : List (RequestPart P)}
    {entries : List (ToServer P)} (carries : x.CarriesRequests batch)
    (encoded : List.Forall₂ x.setup.Encoded batch payloads)
    (queued : List.Forall₂ (fun part entry => ∃ ticket, entry = ToServer.part part ticket)
      payloads entries) :
    List.Forall₂ x.Arrives batch entries := by
  refine forall₂_comp encoded queued fun part member payload entry first queued => ?_
  obtain ⟨ticket, same⟩ := queued
  have decodes := decodes_request (fun message flags same => carries message flags (same ▸ member))
    first
  exact ⟨payload, ticket, same, decodes⟩

/-- A batch of what is left to send goes into the queue to the server. -/
theorem sends (call : Client.Call τ Resp) {link : Link P} {batch behind : List (RequestPart Req)}
    (flows : link.Flows) (running : call.terminated = false)
    (script : Script (batch ++ behind) call.closed) (carries : x.CarriesRequests batch)
    (sent : call.sent = link.requestSignals.length) :
    ∃ receipts closed later ops entries signals,
      call.send x.setup batch =
        (.ok receipts, { call := { call with closed, sent := later }, ops, receipts }) ∧
      ops.foldl Loopback.apply link =
        { link with toServer := link.toServer ++ entries, requestSignals := signals } ∧
      { link with toServer := link.toServer ++ entries, requestSignals := signals }.Flows ∧
      List.Forall₂ x.Arrives batch entries ∧
      Script behind closed ∧
      later = signals.length ∧
      call.sent ≤ later ∧
      ∀ r ∈ receipts, ∃ t < later, r = .issued t := by
  obtain ⟨payloads, closed, encoded, script, enqueued⟩ :=
    Client.Pass.enqueue_plain x.plain carries.encodes (p := .start call) running script
  obtain ⟨entries, signals, queued, later, same, length⟩ := flows.sendAll payloads
  rw [queued] at later
  refine ⟨(List.range' call.sent payloads.length).map .issued, closed,
    call.sent + payloads.length, payloads.map .send, entries, signals, ?_, ?_, later,
    arrives_of_encoded carries encoded same, script, by rw [length, sent], Nat.le_add_right _ _, ?_⟩
  · unfold Client.Call.send
    rw [enqueued]
    rfl
  · rw [← queued]
    exact List.foldl_map
  · intro r member
    obtain ⟨t, range, rfl⟩ := List.mem_map.mp member
    have below := (List.mem_range'_1.mp range).2
    exact ⟨t, below, rfl⟩

variable {story : Story Req Resp} {c : Conversation τ σ P Req Resp S}

/-! ### The start -/

/-- The request in full: its headers, and the parts of the input. -/
theorem opening_script :
    Client.Call.opening x.setup x.request.single? ++ x.script =
      .headers x.setup.options.requestHeaders :: x.input.parts := by
  unfold script input
  cases request : x.request with
  | one message => rfl
  | stream messages => simp [Client.Call.opening, Request.single?, Input.parts, Setup.message]

theorem request?_input : x.input.request? = x.request.single? := by
  unfold input
  cases request : x.request <;> rfl

theorem unread_input : x.input.unread = x.request.readable := by
  unfold input
  cases request : x.request with
  | one message => rfl
  | stream messages => simp [Input.unread, Request.readable]

theorem isStream_input : x.input.isStream = x.request.isStream := by
  unfold input
  cases request : x.request <;> rfl

theorem carries_input (carried : ∀ message ∈ x.request.messages, x.CarriesRequest message) :
    x.CarriesRequests (.headers x.setup.options.requestHeaders :: x.input.parts) := by
  intro message flags member
  refine carried message ?_
  unfold input at member
  cases request : x.request with
  | one message => simp_all [Input.parts, Request.messages]
  | stream messages =>
    simp only [request, Input.parts, List.map_map, List.mem_cons, List.mem_append, List.mem_map,
      reduceCtorEq, List.not_mem_nil, or_false, false_or] at member
    obtain ⟨sent, member, same⟩ := member
    cases same
    exact List.mem_map_of_mem member

theorem carries_parts (carried : ∀ message ∈ story.messages, x.CarriesResponse message)
    (opened : Bool) : x.CarriesResponses (story.parts opened) := by
  intro message flags member
  have response : (message, flags) ∈ story.responses := by
    cases opened <;> simpa [Story.parts] using member
  exact carried message (List.mem_map_of_mem response)

/-- A call over a fresh link is live. -/
theorem live_start (tells : x.Tells story)
    (requests : ∀ message ∈ x.request.messages, x.CarriesRequest message)
    (responses : ∀ message ∈ story.messages, x.CarriesResponse message) (now : Nat) :
    ∃ moves, x.Live story (x.start now) moves := by
  have carries := carries_input requests
  have whole : Script (Client.Call.opening x.setup x.request.single? ++ x.script) false := by
    rw [opening_script]
    exact .cons (by simp [RequestPart.kind]) (Client.script_input x.input)
  rw [← opening_script] at carries
  have first := carries.of_subset (List.subset_append_left _ _)
  have behind := carries.of_subset (List.subset_append_right _ _)
  have flows : ((x.farEnd : FarEnd σ P Req Resp S).link.invoke.2).Flows :=
    ⟨rfl, rfl, rfl, by rintro ticket ⟨⟩, by rintro ticket ⟨⟩⟩
  obtain ⟨receipts, closed, later, ops, entries, signals, sends, queued, flows, arrives, script,
    length, -, -⟩ := sends (.fresh x.setup.shape x.shared) flows rfl whole first rfl
  -- The opening is queued, and the receipts of its parts are dropped: nobody waits for them.
  have started : (x.start now).loop =
      { near := x.setup.active
          { Client.Call.fresh x.setup.shape x.shared with closed, sent := later } []
        far := { x.farEnd with link := { x.farEnd.link.invoke.2 with
          toServer := x.farEnd.link.invoke.2.toServer ++ entries
          requestSignals := signals } } } := by
    unfold start Loopback.start Active.start Client.Call.start
    simp only [sends, x.patient, ← queued]
    rfl
  have told : Hears x.setup.shape story (story.parts false)
      (Client.Call.fresh x.setup.shape x.shared).intake [] :=
    .nothing (Client.Response.gathers_fresh x.setup.shape)
  have attends : x.service.Attends (.fresh x.service.path x.service.shared) .absent
      (Client.Call.opening x.setup x.request.single? ++ x.script) (story.parts false)
      (.invoked x.setup.options.requestHeaders x.request.single? :: story.sights)
      (3 * story.wishes + 4) := by
    rw [opening_script, ← request?_input]
    refine .idle ?_ ?_
    · rw [isStream_input, x.fits, x.shape]
    · rw [request?_input, unread_input, x.path]
      exact tells
  have here : x.Attended (x.start now).loop.far
      (Client.Call.opening x.setup x.request.single? ++ x.script) (story.parts false)
      (.invoked x.setup.options.requestHeaders x.request.single? :: story.sights)
      (3 * story.wishes + 4) (.fresh x.service.path x.service.shared) .absent := by
    rw [started]
    exact ⟨Or.inr ⟨rfl, rfl, ⟨x.path.symm, rfl, rfl, rfl⟩, rfl, rfl⟩, rfl, attends⟩
  have listens : x.Listens story (x.start now) (story.parts false)
      { Client.Call.fresh x.setup.shape x.shared with closed, sent := later } [] := by
    refine ⟨by rw [started], rfl, script, behind, by rw [started]; exact length, ?_, told⟩
    rintro batch ⟨⟩
  refine ⟨_, _, [], story.parts false, _, _, _, [], _, _,
    ⟨?_, ?_, ?_, carries_parts responses false, listens, here, rfl⟩, Nat.le_refl _⟩
  · rw [started]
    exact flows
  · rw [started]
    exact arrives
  · rw [started]
    exact .nil

end Exchange

end RemoteCall
