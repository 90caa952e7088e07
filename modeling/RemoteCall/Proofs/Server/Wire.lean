import RemoteCall.Proofs.Chain.Trace
import RemoteCall.Proofs.ResponseOrder
import RemoteCall.Proofs.Server.Event

/-!
# What a served call says on the wire

Parts for the transport come from writes, from the return of the handler, from rejections and
from hooks that send past the outbound gate. They all leave through `Pass.toTransport`, where the
order filter stands. `Pass.Ordered` ties the order of the filter to what has left so far; each
part that leaves keeps it, and so does everything else that happens to a call, since only
`toTransport` touches the filter or hands anything over. So whatever a call is put through, its
output is well-formed (`Serving.wellFormed_outputs`).
-/

namespace RemoteCall.Server

open ResponseOrder (Passed)

variable {σ P Req Resp S : Type}

namespace Pass

variable (method : Method σ P Req Resp) {past : List (ResponsePart P)} {p : Pass σ P Req}

/-- What has left, in the past and in this pass, is what may have passed the order filter. -/
def Ordered (past : List (ResponsePart P)) (p : Pass σ P Req) : Prop :=
  Passed (past ++ p.parts) p.call.order

/-- What hands nothing over and leaves the filter alone keeps the order. -/
theorem Ordered.of_eq {p' : Pass σ P Req} (ordered : p.Ordered past)
    (parts : p'.parts = p.parts) (order : p'.call.order = p.call.order) : p'.Ordered past := by
  unfold Ordered
  rw [parts, order]
  exact ordered

theorem parts_send (p : Pass σ P Req) (part : ResponsePart P) :
    { p with ops := p.ops ++ [.send part] : Pass σ P Req }.parts = p.parts ++ [part] := by
  unfold parts
  rw [List.filterMap_append]
  rfl

theorem parts_startHandler (p : Pass σ P Req) (request : Option Req) :
    { p with ops := p.ops ++ [.start request] : Pass σ P Req }.parts = p.parts := by
  unfold parts
  rw [List.filterMap_append]
  exact List.append_nil _

/-- A part that has an encoding is handed over, and another one is not. -/
theorem parts_write (p : Pass σ P Req) (part : ResponsePart Resp) :
    (write method p part).parts =
      p.parts ++ (part.tryMap method.responses.encode).toOption.toList := by
  unfold write
  cases part.tryMap method.responses.encode with
  | ok encoded => exact parts_send p encoded
  | error e => exact (List.append_nil _).symm

/-- Handing a part over only counts it. -/
theorem call_write (p : Pass σ P Req) (part : ResponsePart Resp) :
    ∃ sent, (write method p part).call = { p.call with sent } := by
  unfold write
  cases part.tryMap method.responses.encode with
  | ok encoded => exact ⟨p.call.sent + 1, rfl⟩
  | error e => exact ⟨p.call.sent, rfl⟩

theorem call_foldl_write (admitted : List (ResponsePart Resp)) (p : Pass σ P Req) :
    ∃ sent, (admitted.foldl (write method) p).call = { p.call with sent } := by
  induction admitted generalizing p with
  | nil => exact ⟨p.call.sent, rfl⟩
  | cons first rest ih =>
    obtain ⟨sent, written⟩ := call_write method p first
    obtain ⟨total, later⟩ := ih (write method p first)
    exact ⟨total, by rw [List.foldl_cons, later, written]⟩

/-- A part that leaves the chain moves the filter on, is counted, and may cancel the scope. -/
theorem call_toTransport (part : ResponsePart Resp) (p : Pass σ P Req) :
    ∃ sent cancelled, (toTransport method part p).call =
      { p.call with
        order := (p.call.order.allow part).2
        sent
        context := { p.call.context with cancelled } } := by
  obtain ⟨sent, written⟩ := call_foldl_write method (p.call.order.allow part).1
    { p with call := { p.call with order := (p.call.order.allow part).2 } }
  unfold toTransport
  by_cases finish : (p.call.order.allow part).1.any ResponsePart.isFinish = true
  · refine ⟨sent, true, ?_⟩
    simp only [finish, if_true, mapCall, written]
    rfl
  · refine ⟨sent, p.call.context.cancelled, ?_⟩
    simp only [finish, Bool.false_eq_true, if_false, written]

theorem parts_foldl_write (admitted : List (ResponsePart Resp)) (p : Pass σ P Req) :
    (admitted.foldl (write method) p).parts =
      p.parts ++ admitted.filterMap fun part =>
        (part.tryMap method.responses.encode).toOption := by
  induction admitted generalizing p with
  | nil => exact (List.append_nil _).symm
  | cons first rest ih =>
    rw [List.foldl_cons, ih, parts_write, List.append_assoc, List.filterMap_cons]
    cases (first.tryMap method.responses.encode).toOption <;> rfl

/-- A part that leaves the chain is handed over only as the order filter permits. -/
theorem ordered_toTransport (part : ResponsePart Resp) (ordered : p.Ordered past) :
    (toTransport method part p).Ordered past := by
  have parts : (toTransport method part p).parts = p.parts ++
      (p.call.order.allow part).1.filterMap fun part =>
        (part.tryMap method.responses.encode).toOption := by
    refine Eq.trans ?_ (parts_foldl_write method (p.call.order.allow part).1
      { p with call := { p.call with order := (p.call.order.allow part).2 } })
    unfold toTransport
    dsimp only
    split <;> rfl
  obtain ⟨sent, cancelled, call⟩ := call_toTransport method part p
  unfold Ordered at *
  rw [parts, call, ← List.append_assoc]
  exact ordered.allow method.responses.encode part

/-- A part that arrives touches the request side and the request headers only. -/
theorem call_advance (streams : Bool) (call : Call σ Req) (part : RequestPart Req) :
    ∃ inbound requests headers, (advance streams call part).1 =
      { call with inbound, requests, context := { call.context with headers } } := by
  unfold advance
  split
  · cases streams <;> exact ⟨_, _, _, rfl⟩
  all_goals exact ⟨_, _, _, rfl⟩

/-- The request side does not touch the order filter. -/
theorem order_advance (streams : Bool) (call : Call σ Req) (part : RequestPart Req) :
    (advance streams call part).1.order = call.order := by
  obtain ⟨inbound, requests, headers, same⟩ := call_advance streams call part
  rw [same]

theorem sent_advance (streams : Bool) (call : Call σ Req) (part : RequestPart Req) :
    (advance streams call part).1.sent = call.sent := by
  obtain ⟨inbound, requests, headers, same⟩ := call_advance streams call part
  rw [same]

theorem isCancelled_advance (streams : Bool) (call : Call σ Req) (part : RequestPart Req) :
    (advance streams call part).1.isCancelled = call.isCancelled := by
  obtain ⟨inbound, requests, headers, same⟩ := call_advance streams call part
  rw [same]
  rfl

/-- A failure closes the request side and touches nothing else. -/
theorem call_closeInbound (call : Call σ Req) (e : CallError) :
    ∃ requests, call.closeInbound e = { call with inbound := .closed, requests } := by
  unfold Call.closeInbound
  split <;> exact ⟨_, rfl⟩

theorem order_closeInbound (call : Call σ Req) (e : CallError) :
    (call.closeInbound e).order = call.order := by
  obtain ⟨requests, same⟩ := call_closeInbound call e
  rw [same]

theorem sent_closeInbound (call : Call σ Req) (e : CallError) :
    (call.closeInbound e).sent = call.sent := by
  obtain ⟨requests, same⟩ := call_closeInbound call e
  rw [same]

theorem ordered_onRequestWhileEmitting (part : RequestPart Req) (ordered : p.Ordered past) :
    (onRequestWhileEmitting method part p).Ordered past := by
  have order := order_advance method.shape.streamsRequests p.call part
  unfold onRequestWhileEmitting
  cases advanced : advance method.shape.streamsRequests p.call part with
  | mk call reaction =>
    rw [advanced] at order
    cases reaction with
    | ignore => exact ordered.of_eq rfl order
    | start request => exact ordered.of_eq (parts_startHandler p request) order
    | reject reason => exact ordered.of_eq rfl order

theorem ordered_loseClient (e : CallError) (ordered : p.Ordered past) :
    (p.mapCall (·.loseClient e)).Ordered past :=
  ordered.of_eq rfl (order_closeInbound p.call e)

/-- Whatever hooks do while a part is emitted keeps the order. -/
theorem ordered_outbound (action : EdgeAction σ (ResponsePart Resp) (RequestPart Req))
    (p : Pass σ P Req) (ordered : p.Ordered past) :
    ((outboundEdges method).act action p).Ordered past := by
  cases action with
  | transport part => exact ordered_toTransport method part ordered
  | note update => exact ordered.of_eq rfl rfl
  | arrive arrival =>
    cases arrival with
    | part part => exact ordered_onRequestWhileEmitting method part ordered
    | failure e => exact ordered_loseClient e ordered

theorem ordered_send (part : ResponsePart Resp) (ordered : p.Ordered past) :
    (send method part p).Ordered past :=
  method.chain.send_keeps (ordered_outbound method) p.call.context.path part ordered

theorem ordered_openResponse (part : ResponsePart Resp) (ordered : p.Ordered past) :
    (openResponse method part p).2.Ordered past := by
  unfold openResponse
  split
  · exact ordered
  · cases part with
    | headers m => exact ordered.of_eq rfl rfl
    | message a flags => exact ordered_send method _ (ordered.of_eq rfl rfl)
    | finish status trailers => exact ordered_send method _ (ordered.of_eq rfl rfl)

theorem ordered_emit (part : ResponsePart Resp) (ordered : p.Ordered past) :
    (emit method part p).2.Ordered past := by
  unfold emit
  split
  · exact ordered
  · have opened := ordered_openResponse method part ordered
    refine ordered_send method _ ?_
    split
    · exact opened.of_eq rfl rfl
    · exact opened

theorem ordered_finish (status : Status) (ordered : p.Ordered past) :
    (finish method status p).Ordered past :=
  ordered_emit method _ (ordered.of_eq rfl rfl)

theorem ordered_onRequest (part : RequestPart Req) (ordered : p.Ordered past) :
    (onRequest method part p).Ordered past := by
  have order := order_advance method.shape.streamsRequests p.call part
  unfold onRequest
  cases advanced : advance method.shape.streamsRequests p.call part with
  | mk call reaction =>
    rw [advanced] at order
    have advancedOrdered : { p with call : Pass σ P Req }.Ordered past := ordered.of_eq rfl order
    cases reaction with
    | ignore => exact advancedOrdered
    | start request => exact ordered.of_eq (parts_startHandler p request) order
    | reject reason =>
      have rejected : (finish method reason.status
          { p with call, receipts := [] : Pass σ P Req }).Ordered past :=
        ordered_finish method _ (advancedOrdered.of_eq rfl rfl)
      exact rejected.of_eq rfl rfl

/-- Whatever hooks do while a part is received keeps the order. -/
theorem ordered_inbound (action : EdgeAction σ (ResponsePart Resp) (RequestPart Req))
    (p : Pass σ P Req) (ordered : p.Ordered past) :
    ((inboundEdges method).act action p).Ordered past := by
  cases action with
  | transport part => exact ordered_toTransport method part ordered
  | note update => exact ordered.of_eq rfl rfl
  | arrive arrival =>
    cases arrival with
    | part part => exact ordered_onRequest method part ordered
    | failure e => exact ordered_loseClient e ordered

end Pass

theorem Call.write_emits (method : Method σ P Req Resp) (transport : Bool) (message : Resp)
    (compression : Compression) (call : Call σ Req) :
    ∃ flags, (call.write method transport message compression).2 =
      (Pass.emit method (.message message flags) (.start call)).2 := by
  let allowed := transport && call.context.compression
  refine ⟨MessageFlags.compressed (allowed && compression.resolve allowed), ?_⟩
  simp only [Call.write]
  split <;> next heq => exact (congrArg Prod.snd heq).symm

/-- Every event keeps the order. -/
theorem Event.ordered_pass (method : Method σ P Req Resp) (event : Event σ P Req Resp)
    {past : List (ResponsePart P)} {call : Call σ Req} (passed : Passed past call.order) :
    (event.pass method call).Ordered past := by
  have begins : ∀ call' : Call σ Req, call'.order = call.order →
      (Pass.start call' : Pass σ P Req).Ordered past := fun call' order => by
    show Passed (past ++ []) call'.order
    rw [List.append_nil, order]
    exact passed
  have started := begins call rfl
  cases event with
  | receive part =>
    simp only [Event.pass, Call.receive]
    cases part.tryMap method.requests.decode with
    | ok decoded => exact method.chain.arrive_keeps (Pass.ordered_inbound method) _ _ started
    | error e => exact Pass.ordered_finish method _ (begins _ (Pass.order_closeInbound call e))
  | error e =>
    have failed : (method.chain.fail (Pass.inboundEdges method) call.context.path e
        (.start call)).Ordered past :=
      method.chain.arrive_keeps (Pass.ordered_inbound method) _ _ started
    exact Pass.ordered_loseClient e failed
  | release =>
    refine begins _ ?_
    unfold Call.release
    split
    · rfl
    · exact Pass.order_closeInbound call _
  | write transport message compression =>
    obtain ⟨flags, written⟩ := Call.write_emits method transport message compression call
    show ((call.write method transport message compression).2).Ordered past
    rw [written]
    exact Pass.ordered_emit method _ started
  | finish result =>
    cases result with
    | ok u => exact Pass.ordered_finish method _ started
    | error e => exact Pass.ordered_finish method _ started
  | use how => exact begins _ rfl
  | poll => exact begins _ rfl
  | abandon => exact begins _ rfl

/-- All events together keep the order. -/
theorem Call.passed_run (method : Method σ P Req Resp) (events : List (Event σ P Req Resp))
    {past : List (ResponsePart P)} {call : Call σ Req} (passed : Passed past call.order) :
    Passed (past ++ call.outputs method events) (call.run method events).order := by
  induction events generalizing past call with
  | nil =>
    show Passed (past ++ []) call.order
    rw [List.append_nil]
    exact passed
  | cons event rest ih =>
    have first := event.ordered_pass method passed
    have all := ih first
    rw [List.append_assoc] at all
    exact all

/-- What a served call hands to its transport is well-formed at every moment: for every shape,
chain and handler, whatever the transport delivers and reports, and whoever writes. -/
theorem Serving.wellFormed_outputs (method : Method σ P Req Resp)
    (handler : Handler σ Req Resp S) (compression : Bool) (path : String) (shared : σ)
    (moves : List (Move σ P Req Resp)) :
    ResponsePart.WellFormed
      ((Serving.fresh method handler compression path shared).outputs moves) := by
  have follows := Serving.follows_run (.fresh method handler compression path shared) moves
  obtain ⟨events, -, parts⟩ := follows.call
  have start : Passed ([] : List (ResponsePart P)) (Call.fresh path shared : Call σ Req).order :=
    .nothing
  have passed := Call.passed_run method events start
  have same : Call.outputs method events (Call.fresh path shared) = _ := parts
  rw [same] at passed
  exact passed.wellFormed

end RemoteCall.Server
