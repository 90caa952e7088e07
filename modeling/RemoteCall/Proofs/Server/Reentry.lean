import RemoteCall.Proofs.Chain.Relating
import RemoteCall.Proofs.Server.Conduct

/-!
# Emissions take turns

An emission keeps the outbound gate to itself until its parts have run through the chain. If a hook
passed a request part inward meanwhile, and the request side rejected it, the end for that would
wait for the gate for ever; `Call.reentered` notes it.

This cannot happen. Whatever emits finds the request side past the start of the handler
(`Inbound.isPast`): who writes or returns was started, or got the writer from who was, and a
rejection and a failed decoding close the request side before they emit. Nothing leads back from
there, and there every part is taken without a rejection and without a start. So it makes no
difference to an emission that the edges of the chain could emit in turn
(`Pass.send_eq_of_isPast`), and none is ever asked for (`Serving.emits_in_turn`).
-/

namespace RemoteCall.Server

variable {σ P Req Resp S : Type}

/-! ### What is emitted -/

/-- A part that is to be emitted, and the pass that it finds. -/
structure Emission (σ P Req Resp : Type) where
  part : ResponsePart Resp
  pass : Pass σ P Req

/-- Something that happens at an edge of the chain, and the pass that it finds. -/
abbrev Scene (σ P Req Resp : Type) :=
  EdgeAction σ (ResponsePart Resp) (RequestPart Req) × Pass σ P Req

namespace Pass

/-- The emission of the end, with the staged trailers. -/
def ending (status : Status) (p : Pass σ P Req) : Emission σ P Req Resp where
  part := .finish status p.call.context.trailers
  pass := p.mapCall fun call => { call with context := { call.context with trailers := .empty } }

variable (method : Method σ P Req Resp)

/-- What happens at the edges while a part runs through the chain toward the transport. -/
def sendScenes (part : ResponsePart Resp) (p : Pass σ P Req) : List (Scene σ P Req Resp) :=
  (outboundEdges method).scenes
    (method.chain.sendTrace (outboundEdges method) p.call.context.path part p) p

/-- What happens at the edges while the staged headers go ahead of a part. -/
def openScenes (part : ResponsePart Resp) (p : Pass σ P Req) : List (Scene σ P Req Resp) :=
  if p.call.headersSent then []
  else
    match part with
    | .headers _ => []
    | _ => sendScenes method (.headers p.call.context.responseHeaders) p.opened

/-- The emission that a part leads to while the call receives: one that is rejected ends the
call. -/
def rejection? (part : RequestPart Req) (p : Pass σ P Req) : Option (Emission σ P Req Resp) :=
  match advance method.shape.streamsRequests p.call part with
  | (call, .reject reason) => some (ending reason.status { p with call, receipts := [] })
  | _ => none

/-- The emission that something at the edges leads to while the call receives. -/
def reply? : Scene σ P Req Resp → Option (Emission σ P Req Resp)
  | (.arrive (.part part), p) => rejection? method part p
  | _ => none

/-- The emissions while something that the transport delivers runs through the chain. -/
def arriveEmissions (arrival : Arrival (RequestPart Req)) (p : Pass σ P Req) :
    List (Emission σ P Req Resp) :=
  ((inboundEdges method).scenes
    (method.chain.arriveTrace (inboundEdges method) p.call.context.path arrival p) p).filterMap
      (reply? method)

end Pass

/-- What happens at the edges of the chain during an emission. -/
def Emission.scenes (method : Method σ P Req Resp) (emission : Emission σ P Req Resp) :
    List (Scene σ P Req Resp) :=
  if emission.pass.call.ended || emission.pass.call.suppressed then []
  else
    let (part, p) := Pass.openResponse method emission.part emission.pass
    let p := if part.isFinish then p.mapCall fun call => { call with ended := true } else p
    Pass.openScenes method emission.part emission.pass ++ Pass.sendScenes method part p

/-- What is emitted in an event, refused or not: a write, the end when the handler returns, and the
end for a part that is rejected or cannot be decoded. -/
def Event.emissions (method : Method σ P Req Resp) :
    Event σ P Req Resp → Call σ Req → List (Emission σ P Req Resp)
  | receive part, call =>
    match part.tryMap method.requests.decode with
    | .ok decoded => Pass.arriveEmissions method (.part decoded) (.start call)
    | .error e => [Pass.ending e.toStatus (.start (call.closeInbound e))]
  | error e, call => Pass.arriveEmissions method (.failure e) (.start call)
  | write transport message compression, call =>
    let allowed := transport && call.context.compression
    let flags := MessageFlags.compressed (allowed && compression.resolve allowed)
    [⟨.message message flags, .start call⟩]
  | finish (.ok ()), call => [Pass.ending .success (.start call)]
  | finish (.error e), call => [Pass.ending e.toStatus (.start call)]
  | _, _ => []

/-- What is emitted in a run. -/
def Call.emissions (method : Method σ P Req Resp) :
    List (Event σ P Req Resp) → Call σ Req → List (Emission σ P Req Resp)
  | [], _ => []
  | event :: rest, call =>
    event.emissions method call ++ emissions method rest (event.pass method call).call

theorem Call.emissions_append (method : Method σ P Req Resp)
    (first second : List (Event σ P Req Resp)) (call : Call σ Req) :
    call.emissions method (first ++ second) =
      call.emissions method first ++ (call.run method first).emissions method second := by
  induction first generalizing call with
  | nil => rfl
  | cons event rest ih =>
    rw [List.cons_append, emissions, emissions, ih, List.append_assoc]
    rfl

/-- What a served call emits in a run. -/
def Serving.emissions (s : Serving σ P Req Resp S) (moves : List (Move σ P Req Resp)) :
    List (Emission σ P Req Resp) :=
  s.call.emissions s.method (s.history moves)

/-! ### Past the start of the handler -/

theorem Call.reentered_closeInbound (call : Call σ Req) (e : CallError) :
    (call.closeInbound e).reentered = call.reentered := by
  obtain ⟨requests, same⟩ := Pass.call_closeInbound call e
  rw [same]

namespace Pass

variable {method : Method σ P Req Resp} {p : Pass σ P Req}

/-- A part that is rejected closes the request side. -/
theorem inbound_of_rejects {streams : Bool} {call call' : Call σ Req} {part : RequestPart Req}
    {reason : Rejection} (rejects : advance streams call part = (call', .reject reason)) :
    call'.inbound = .closed := by
  unfold advance at rejects
  split at rejects
  · split at rejects <;> cases rejects
  all_goals cases rejects
  all_goals rfl

theorem reentered_advance (streams : Bool) (call : Call σ Req) (part : RequestPart Req) :
    (advance streams call part).1.reentered = call.reentered := by
  obtain ⟨inbound, requests, headers, same⟩ := call_advance streams call part
  rw [same]

/-- Past the start of the handler a part is taken, and that is all, whether the call receives or
emits. -/
theorem onRequest_of_isPast (past : p.call.inbound.isPast = true) (part : RequestPart Req) :
    onRequest method part p =
        { p with call := (advance method.shape.streamsRequests p.call part).1 } ∧
      onRequestWhileEmitting method part p =
        { p with call := (advance method.shape.streamsRequests p.call part).1 } := by
  have ignored := (advance_of_isPast past method.shape.streamsRequests part).1
  unfold onRequest onRequestWhileEmitting
  cases advanced : advance method.shape.streamsRequests p.call part with
  | mk call reaction =>
    rw [advanced] at ignored
    rw [show reaction = .ignore from ignored]
    exact ⟨rfl, rfl⟩

/-- There the two edges do the same. -/
theorem act_of_isPast (past : p.call.inbound.isPast = true)
    (action : EdgeAction σ (ResponsePart Resp) (RequestPart Req)) :
    (inboundEdges method).act action p = (outboundEdges method).act action p := by
  cases action with
  | transport part => rfl
  | note update => rfl
  | arrive arrival =>
    cases arrival with
    | part part =>
      show onRequest method part p = onRequestWhileEmitting method part p
      rw [(onRequest_of_isPast past part).1, (onRequest_of_isPast past part).2]
    | failure e => rfl

/-- The request side is past the start of the handler, and `again` says whether an emission was
asked for from inside another. -/
structure IsDeaf (again : Bool) (p : Pass σ P Req) : Prop where
  past : p.call.inbound.isPast = true
  reentered : p.call.reentered = again

namespace IsDeaf

variable {again : Bool}

/-- Nothing else matters. -/
theorem of_eq (deaf : p.IsDeaf again) {p' : Pass σ P Req}
    (inbound : p'.call.inbound = p.call.inbound)
    (reentered : p'.call.reentered = p.call.reentered) : p'.IsDeaf again :=
  ⟨inbound ▸ deaf.past, reentered.trans deaf.reentered⟩

theorem toTransport (deaf : p.IsDeaf again) (part : ResponsePart Resp) :
    (toTransport method part p).IsDeaf again := by
  obtain ⟨sent, cancelled, same⟩ := call_toTransport method part p
  exact deaf.of_eq (by rw [same]) (by rw [same])

theorem loseClient (deaf : p.IsDeaf again) (e : CallError) :
    (p.mapCall (·.loseClient e)).IsDeaf again :=
  ⟨p.call.isPast_closeInbound e, (p.call.reentered_closeInbound e).trans deaf.reentered⟩

theorem onRequestWhileEmitting (deaf : p.IsDeaf again) (part : RequestPart Req) :
    (onRequestWhileEmitting method part p).IsDeaf again := by
  obtain ⟨-, stays, -⟩ := advance_of_isPast deaf.past method.shape.streamsRequests part
  have kept := reentered_advance method.shape.streamsRequests p.call part
  rw [(onRequest_of_isPast deaf.past part).2]
  exact ⟨stays, kept.trans deaf.reentered⟩

/-- Whatever happens at an edge leaves the request side there. -/
theorem act (action : EdgeAction σ (ResponsePart Resp) (RequestPart Req)) (p : Pass σ P Req)
    (deaf : p.IsDeaf again) : ((outboundEdges method).act action p).IsDeaf again := by
  cases action with
  | transport part => exact deaf.toTransport part
  | note update => exact deaf.of_eq rfl rfl
  | arrive arrival =>
    cases arrival with
    | part part => exact deaf.onRequestWhileEmitting part
    | failure e => exact deaf.loseClient e

theorem send (deaf : p.IsDeaf again) (part : ResponsePart Resp) :
    (send method part p).IsDeaf again :=
  method.chain.send_keeps act p.call.context.path part deaf

theorem openResponse (deaf : p.IsDeaf again) (part : ResponsePart Resp) :
    (openResponse method part p).2.IsDeaf again := by
  have opened : p.opened.IsDeaf again := deaf.of_eq rfl rfl
  unfold Pass.openResponse
  split
  · exact deaf
  · cases part with
    | headers m => exact opened
    | message a flags => exact opened.send _
    | finish status trailers => exact opened.send _

/-- An end only closes the gate behind the response before it runs through the chain. -/
theorem gated (deaf : p.IsDeaf again) (part : ResponsePart Resp) :
    (if part.isFinish then p.mapCall fun call => { call with ended := true } else p).IsDeaf
      again := by
  split
  · exact deaf.of_eq rfl rfl
  · exact deaf

theorem emit (deaf : p.IsDeaf again) (part : ResponsePart Resp) :
    (emit method part p).2.IsDeaf again := by
  unfold Pass.emit
  split
  · exact deaf
  · exact ((deaf.openResponse part).gated _).send _

theorem finish (deaf : p.IsDeaf again) (status : Status) :
    (finish method status p).IsDeaf again :=
  emit (p := p.mapCall _) (deaf.of_eq rfl rfl) _

theorem sendScenes (deaf : p.IsDeaf again) (part : ResponsePart Resp) :
    ∀ scene ∈ sendScenes method part p, scene.2.IsDeaf again :=
  Edges.scenes_keep act deaf

theorem openScenes (deaf : p.IsDeaf again) (part : ResponsePart Resp) :
    ∀ scene ∈ openScenes method part p, scene.2.IsDeaf again := by
  have opened : p.opened.IsDeaf again := deaf.of_eq rfl rfl
  unfold Pass.openScenes
  split
  · exact List.forall_mem_nil _
  · cases part with
    | headers m => exact List.forall_mem_nil _
    | message a flags => exact opened.sendScenes _
    | finish status trailers => exact opened.sendScenes _

end IsDeaf

/-- One pass, past the start of the handler. -/
def SamePast (p p' : Pass σ P Req) : Prop := p = p' ∧ p.call.inbound.isPast = true

theorem SamePast.act {p' : Pass σ P Req} (same : SamePast p p')
    (action : EdgeAction σ (ResponsePart Resp) (RequestPart Req)) :
    SamePast ((outboundEdges method).act action p) ((inboundEdges method).act action p') := by
  obtain ⟨rfl, past⟩ := same
  exact ⟨(act_of_isPast past action).symm, (IsDeaf.act action p ⟨past, rfl⟩).past⟩

/-- It makes no difference to a part that is sent there that the edges of the chain could emit in
turn. -/
theorem send_eq_of_isPast (past : p.call.inbound.isPast = true) (part : ResponsePart Resp) :
    send method part p =
      method.chain.send (inboundEdges method) p.call.context.path part p := by
  have relates : (outboundEdges method).Relates SamePast (inboundEdges method) :=
    ⟨fun part _ _ same => same.act (.transport part),
      fun arrival _ _ same => same.act (.arrive arrival),
      fun update _ _ same => same.act (.note update),
      fun _ _ same => congrArg _ same.1⟩
  exact (Chain.send_related relates p.call.context.path method.chain part ⟨rfl, past⟩).1

/-- What becomes of what reaches a pass from inside the chain. -/
structure IsSettled (method : Method σ P Req Resp) (p : Pass σ P Req) : Prop where
  /-- A part is taken, without a rejection and without a start. -/
  takes : ∀ part, (advance method.shape.streamsRequests p.call part).2 = .ignore ∧
    onRequest method part p =
      { p with call := (advance method.shape.streamsRequests p.call part).1 }
  /-- Whatever happens at an edge is the same whether the call receives or emits, and does not lead
  back. -/
  stays : ∀ action, (inboundEdges method).act action p = (outboundEdges method).act action p ∧
    ((outboundEdges method).act action p).call.inbound.isPast = true
  /-- For a part that is sent it makes no difference whether the edges could emit in turn. -/
  sends : ∀ part, send method part p =
    method.chain.send (inboundEdges method) p.call.context.path part p

theorem isSettled_of_isPast (past : p.call.inbound.isPast = true) : p.IsSettled method := by
  refine ⟨fun part => ⟨?_, (onRequest_of_isPast past part).1⟩,
    fun action => ⟨act_of_isPast past action, ?_⟩, send_eq_of_isPast past⟩
  · exact (advance_of_isPast past method.shape.streamsRequests part).1
  · exact (IsDeaf.act action p ⟨past, rfl⟩).past

/-- Nothing at the edges leads to an emission there. -/
theorem reply?_of_isPast {scene : Scene σ P Req Resp}
    (past : scene.2.call.inbound.isPast = true) : reply? method scene = none := by
  obtain ⟨action, p⟩ := scene
  cases action with
  | transport part => rfl
  | note update => rfl
  | arrive arrival =>
    cases arrival with
    | failure e => rfl
    | part part =>
      have ignored := (advance_of_isPast past method.shape.streamsRequests part).1
      show rejection? method part p = none
      unfold rejection?
      cases advanced : advance method.shape.streamsRequests p.call part with
      | mk call reaction =>
        rw [advanced] at ignored
        rw [show reaction = .ignore from ignored]

/-! ### Receiving -/

/-- A rejection closes the request side before it emits the end. -/
theorem reentered_onRequest (never : p.call.reentered = false) (part : RequestPart Req) :
    (onRequest method part p).call.reentered = false := by
  have kept := (reentered_advance method.shape.streamsRequests p.call part).trans never
  unfold onRequest
  cases advanced : advance method.shape.streamsRequests p.call part with
  | mk call reaction =>
    rw [advanced] at kept
    cases reaction with
    | ignore => exact kept
    | start request => exact kept
    | reject reason =>
      have past : call.inbound.isPast = true := by
        rw [inbound_of_rejects advanced]
        rfl
      have deaf : ({ p with call, receipts := [] } : Pass σ P Req).IsDeaf false := ⟨past, kept⟩
      exact (deaf.finish reason.status).reentered

theorem reentered_inbound (action : EdgeAction σ (ResponsePart Resp) (RequestPart Req))
    (p : Pass σ P Req) (never : p.call.reentered = false) :
    ((inboundEdges method).act action p).call.reentered = false := by
  cases action with
  | transport part =>
    obtain ⟨sent, cancelled, same⟩ := call_toTransport method part p
    exact (congrArg Call.reentered same).trans never
  | note update => exact never
  | arrive arrival =>
    cases arrival with
    | part part => exact reentered_onRequest never part
    | failure e => exact (p.call.reentered_closeInbound e).trans never

/-- A rejection is an emission. -/
theorem act_of_reply? {scene : Scene σ P Req Resp} {emission : Emission σ P Req Resp}
    (replies : reply? method scene = some emission) :
    ((inboundEdges method).act scene.1 scene.2).call =
      (emit method emission.part emission.pass).2.call := by
  unfold reply? at replies
  split at replies
  · next part p =>
    show (onRequest method part p).call = _
    unfold rejection? at replies
    unfold onRequest
    split at replies
    · next advanced =>
      cases replies
      rw [advanced]
      rfl
    · cases replies
  · cases replies

/-- A rejection finds the request side closed. -/
theorem isPast_of_reply? {scene : Scene σ P Req Resp} {emission : Emission σ P Req Resp}
    (replies : reply? method scene = some emission) :
    emission.pass.call.inbound.isPast = true := by
  unfold reply? at replies
  split at replies
  · unfold rejection? at replies
    split at replies
    · next advanced =>
      cases replies
      exact congrArg Inbound.isPast (inbound_of_rejects advanced)
    · cases replies
  · cases replies

theorem isPast_arriveEmissions (arrival : Arrival (RequestPart Req)) (p : Pass σ P Req) :
    ∀ emission ∈ arriveEmissions method arrival p,
      emission.pass.call.inbound.isPast = true := by
  intro emission mem
  obtain ⟨scene, -, replies⟩ := List.mem_filterMap.mp mem
  exact isPast_of_reply? replies

end Pass

/-! ### What is no emission -/

namespace Call

/-- The response is as far open or closed as before. -/
structure SameGate (before after : Call σ Req) : Prop where
  headersSent : after.headersSent = before.headersSent
  ended : after.ended = before.ended

theorem SameGate.trans {a b c : Call σ Req} (first : SameGate a b) (second : SameGate b c) :
    SameGate a c :=
  ⟨second.headersSent.trans first.headersSent, second.ended.trans first.ended⟩

theorem sameGate_loseClient (call : Call σ Req) (e : CallError) :
    call.SameGate (call.loseClient e) := by
  obtain ⟨requests, same⟩ := Pass.call_closeInbound call e
  unfold loseClient
  rw [same]
  exact ⟨rfl, rfl⟩

theorem sameGate_advance (streams : Bool) (call : Call σ Req) (part : RequestPart Req) :
    call.SameGate (Pass.advance streams call part).1 := by
  obtain ⟨inbound, requests, headers, same⟩ := Pass.call_advance streams call part
  rw [same]
  exact ⟨rfl, rfl⟩

end Call

namespace Pass

variable {method : Method σ P Req Resp} {p : Pass σ P Req}

/-- A part that is not rejected leaves the gate alone. -/
theorem sameGate_onRequest {part : RequestPart Req} (silent : rejection? method part p = none) :
    p.call.SameGate (onRequest method part p).call := by
  have taken := p.call.sameGate_advance method.shape.streamsRequests part
  unfold rejection? at silent
  unfold onRequest
  cases advanced : advance method.shape.streamsRequests p.call part with
  | mk call reaction =>
    rw [advanced] at taken silent
    cases reaction with
    | ignore => exact taken
    | start request => exact taken
    | reject reason => cases silent

theorem sameGate_act {action : EdgeAction σ (ResponsePart Resp) (RequestPart Req)}
    (silent : reply? method (action, p) = none) :
    p.call.SameGate ((inboundEdges method).act action p).call := by
  cases action with
  | transport part =>
    obtain ⟨sent, cancelled, same⟩ := call_toTransport method part p
    show p.call.SameGate (toTransport method part p).call
    rw [same]
    exact ⟨rfl, rfl⟩
  | note update => exact ⟨rfl, rfl⟩
  | arrive arrival =>
    cases arrival with
    | failure e => exact p.call.sameGate_loseClient e
    | part part => exact sameGate_onRequest silent

theorem sameGate_replay (actions : List (EdgeAction σ (ResponsePart Resp) (RequestPart Req)))
    (silent : ((inboundEdges method).scenes actions p).filterMap (reply? method) = []) :
    p.call.SameGate ((inboundEdges method).replay actions p).call := by
  induction actions generalizing p with
  | nil => exact ⟨rfl, rfl⟩
  | cons action rest ih =>
    obtain ⟨first, later⟩ := List.forall_mem_cons.mp (List.filterMap_eq_nil_iff.mp silent)
    exact (sameGate_act first).trans (ih (List.filterMap_eq_nil_iff.mpr later))

/-- As long as nothing is emitted, what arrives leaves the gate alone. -/
theorem sameGate_arrive {arrival : Arrival (RequestPart Req)}
    (silent : arriveEmissions method arrival p = []) :
    p.call.SameGate
      (method.chain.arrive (inboundEdges method) p.call.context.path arrival p).call := by
  rw [← Chain.replay_arriveTrace]
  exact sameGate_replay _ silent

end Pass

/-- Nothing leads an emission back from there. -/
theorem Emission.isPast_scenes {method : Method σ P Req Resp} {emission : Emission σ P Req Resp}
    (past : emission.pass.call.inbound.isPast = true) :
    ∀ scene ∈ emission.scenes method, scene.2.call.inbound.isPast = true := by
  have deaf : emission.pass.IsDeaf emission.pass.call.reentered := ⟨past, rfl⟩
  unfold scenes
  split
  · exact List.forall_mem_nil _
  · intro scene mem
    rcases List.mem_append.mp mem with ahead | behind
    · exact (deaf.openScenes _ scene ahead).past
    · exact (((deaf.openResponse _).gated _).sendScenes _ scene behind).past

/-! ### Events and runs -/

variable {method : Method σ P Req Resp} {call : Call σ Req}

namespace Event

/-- Nothing leads back. -/
theorem isPast_pass (event : Event σ P Req Resp) (past : call.inbound.isPast = true) :
    (event.pass method call).call.inbound.isPast = true := by
  have ledger := congrArg Ledger.inbound (event.ledger_pass method call [] [])
  have tended : ∀ l : Ledger Req, (event.tend l).inbound = l.inbound := by
    intro l
    cases event <;> rfl
  rw [show (event.pass method call).call.inbound = _ from ledger, tended]
  exact Ledger.isPast_after _ _ past

/-- Whatever emits finds the request side past the start of the handler, if only who was started
writes and returns. -/
theorem isPast_emissions (event : Event σ P Req Resp)
    (started : event.emits = true → call.inbound.isPast = true) :
    ∀ emission ∈ event.emissions method call, emission.pass.call.inbound.isPast = true := by
  cases event with
  | receive part =>
    simp only [emissions]
    cases part.tryMap method.requests.decode with
    | ok decoded => exact Pass.isPast_arriveEmissions _ _
    | error e => exact List.forall_mem_singleton.mpr (call.isPast_closeInbound e)
  | error e => exact Pass.isPast_arriveEmissions _ _
  | write transport message compression => exact List.forall_mem_singleton.mpr (started rfl)
  | finish result => cases result <;> exact List.forall_mem_singleton.mpr (started rfl)
  | _ => exact List.forall_mem_nil _

theorem reentered_pass (event : Event σ P Req Resp)
    (started : event.emits = true → call.inbound.isPast = true)
    (never : call.reentered = false) : (event.pass method call).call.reentered = false := by
  have deaf : event.emits = true → (Pass.start call : Pass σ P Req).IsDeaf false :=
    fun emits => ⟨started emits, never⟩
  have closed : ∀ e, (call.closeInbound e).reentered = false :=
    fun e => (call.reentered_closeInbound e).trans never
  have arrives : ∀ arrival, (method.chain.arrive (Pass.inboundEdges method) call.context.path
      arrival (.start call)).call.reentered = false :=
    fun arrival => method.chain.arrive_keeps (P := fun p : Pass σ P Req =>
      p.call.reentered = false) Pass.reentered_inbound _ arrival never
  cases event with
  | receive part =>
    simp only [Event.pass, Call.receive]
    cases part.tryMap method.requests.decode with
    | ok decoded => exact arrives (.part decoded)
    | error e =>
      have cut : (Pass.start (call.closeInbound e) : Pass σ P Req).IsDeaf false :=
        ⟨call.isPast_closeInbound e, closed e⟩
      exact (cut.finish e.toStatus).reentered
  | error e => exact (Call.reentered_closeInbound _ e).trans (arrives (.failure e))
  | release =>
    show call.release.reentered = false
    unfold Call.release
    split
    · exact never
    · exact closed _
  | write transport message compression =>
    obtain ⟨flags, written⟩ := Call.write_emits method transport message compression call
    show (call.write method transport message compression).2.call.reentered = false
    rw [written]
    exact ((deaf rfl).emit _).reentered
  | finish result =>
    cases result with
    | ok u => exact ((deaf rfl).finish .success).reentered
    | error e => exact ((deaf rfl).finish e.toStatus).reentered
  | use how => exact never
  | poll => exact never
  | abandon => exact never

/-- Nothing but an emission opens or ends the response. -/
theorem sameGate_pass (event : Event σ P Req Resp) (silent : event.emissions method call = []) :
    call.SameGate (event.pass method call).call := by
  cases event with
  | receive part =>
    simp only [emissions] at silent
    simp only [Event.pass, Call.receive]
    cases decoded : part.tryMap method.requests.decode with
    | ok part' =>
      rw [decoded] at silent
      exact Pass.sameGate_arrive silent
    | error e =>
      rw [decoded] at silent
      cases silent
  | error e => exact (Pass.sameGate_arrive silent).trans (Call.sameGate_loseClient _ e)
  | release =>
    show call.SameGate call.release
    unfold Call.release
    split
    · exact ⟨rfl, rfl⟩
    · exact Call.sameGate_loseClient call _
  | write transport message compression => cases silent
  | finish result => cases result <;> cases silent
  | use how => exact ⟨rfl, rfl⟩
  | poll => exact ⟨rfl, rfl⟩
  | abandon => exact ⟨rfl, rfl⟩

end Event

namespace Call

theorem isPast_run (events : List (Event σ P Req Resp)) (past : call.inbound.isPast = true) :
    (call.run method events).inbound.isPast = true := by
  induction events generalizing call with
  | nil => exact past
  | cons event rest ih => exact ih (event.isPast_pass past)

theorem sameGate_run (events : List (Event σ P Req Resp))
    (silent : call.emissions method events = []) :
    call.SameGate (call.run method events) := by
  induction events generalizing call with
  | nil => exact ⟨rfl, rfl⟩
  | cons event rest ih =>
    obtain ⟨first, later⟩ := List.append_eq_nil_iff.mp silent
    exact (event.sameGate_pass first).trans (ih later)

/-- The emissions of a run find the request side past the start of the handler, and no others are
asked for from inside them. -/
structure TakesTurns (method : Method σ P Req Resp) (events : List (Event σ P Req Resp))
    (call : Call σ Req) : Prop where
  past : ∀ emission ∈ call.emissions method events, emission.pass.call.inbound.isPast = true
  never : (call.run method events).reentered = false

theorem takesTurns_run {events : List (Event σ P Req Resp)} (never : call.reentered = false)
    (started : ∀ event ∈ events, event.emits = true → call.inbound.isPast = true) :
    call.TakesTurns method events := by
  induction events generalizing call with
  | nil => exact ⟨List.forall_mem_nil _, never⟩
  | cons event rest ih =>
    obtain ⟨first, others⟩ := List.forall_mem_cons.mp started
    have still : (event.pass method call).call.reentered = false :=
      event.reentered_pass first never
    have later := ih still fun other mem emits => event.isPast_pass (others other mem emits)
    exact ⟨List.forall_mem_append.mpr ⟨event.isPast_emissions first, later.past⟩, later.never⟩

theorem TakesTurns.append {first second : List (Event σ P Req Resp)}
    (turns : call.TakesTurns method first)
    (later : (call.run method first).TakesTurns method second) :
    call.TakesTurns method (first ++ second) := by
  refine ⟨?_, ?_⟩
  · rw [emissions_append]
    exact List.forall_mem_append.mpr ⟨turns.past, later.past⟩
  · rw [run_append]
    exact later.never

end Call

namespace Serving

/-- Who writes or returns in a move can still write before it. -/
theorem isBusy_of_emits {s : Serving σ P Req Resp S} {move : Move σ P Req Resp}
    {event : Event σ P Req Resp} (mem : event ∈ s.events move) (emits : event.emits = true) :
    s.isBusy = true := by
  cases move with
  | task now signals =>
    have awake : s.task.isAlive = true := by
      change event ∈ s.taskEvents signals at mem
      unfold taskEvents at mem
      cases task : s.task with
      | absent | gone =>
        rw [task] at mem
        cases mem
      | _ => rfl
    unfold isBusy
    rw [awake]
    rfl
  | errand signals =>
    change event ∈ s.errandEvents signals at mem
    unfold errandEvents at mem
    split at mem
    · next before errand turn behind found =>
      obtain ⟨split, -⟩ := eq_append_of_pickFirst? found
      have writes : Job.writes errand.job = true := by
        cases job : errand.job with
        | awaitCancelled =>
          rw [job] at mem
          cases mem
        | _ => rfl
      have someone : s.errands.any (fun errand => Job.writes errand.job) = true :=
        List.any_eq_true.mpr ⟨errand, by rw [split]; simp, writes⟩
      unfold isBusy
      rw [someone, Bool.or_true]
    · cases mem
  | dissolve =>
    change event ∈ if s.dissolve?.isSome then [.abandon] else [] at mem
    split at mem
    · cases List.mem_singleton.mp mem
      cases emits
    · cases mem
  | receive part | error e | release | use how | pull =>
    cases List.mem_singleton.mp mem
    cases emits
  | _ => cases mem

variable (method : Method σ P Req Resp) (handler : Handler σ Req Resp S) (compression : Bool)
  (path : String) (shared : σ)

/-- Who can write to a call was started, or got the writer from who was. -/
theorem isPast_of_isBusy {moves : List (Move σ P Req Resp)}
    (regular : (fresh method handler compression path shared).Regular moves)
    (busy : ((fresh method handler compression path shared).run moves).isBusy = true) :
    ((fresh method handler compression path shared).run moves).call.inbound.isPast = true := by
  obtain ⟨events, comes⟩ := comes_run method handler compression path shared regular
  have tracks := Call.tracks_run path shared comes.orderly
  have past := tracks.stands.isPast_of_starts (comes.started busy)
  rw [← comes.ran]
  exact past

theorem takesTurns_run {moves : List (Move σ P Req Resp)}
    (regular : (fresh method handler compression path shared).Regular moves) :
    (Call.fresh path shared).TakesTurns method
      ((fresh method handler compression path shared).history moves) := by
  induction moves using List.reverseRecOn with
  | nil => exact ⟨List.forall_mem_nil _, rfl⟩
  | append_singleton moves move ih =>
    have turns := ih regular.of_append
    have before := isPast_of_isBusy method handler compression path shared regular.of_append
    have at_moves := call_run (fresh method handler compression path shared) moves
    rw [history_concat]
    refine turns.append (Call.takesTurns_run turns.never fun event mem emits => ?_)
    rw [at_moves] at before
    exact before (isBusy_of_emits mem emits)

/-- Emissions of a served call take turns. -/
structure EmitsInTurn (s : Serving σ P Req Resp S) (moves : List (Move σ P Req Resp)) : Prop where
  /-- Whatever emits finds the request side past the start of the handler. -/
  past : ∀ emission ∈ s.emissions moves, emission.pass.call.inbound.isPast = true
  /-- There it stays during the emission, and nothing that the hooks do meanwhile would lead to
  another one. -/
  within : ∀ emission ∈ s.emissions moves, ∀ scene ∈ emission.scenes s.method,
    scene.2.call.inbound.isPast = true ∧ Pass.reply? s.method scene = none
  /-- No emission was asked for from inside another. -/
  never : (s.run moves).call.reentered = false
  /-- A rejection is an emission. -/
  rejects : ∀ scene emission, Pass.reply? s.method scene = some emission →
    ((Pass.inboundEdges s.method).act scene.1 scene.2).call =
      (Pass.emit s.method emission.part emission.pass).2.call
  /-- Nothing but an emission opens or ends the response. -/
  only : ∀ later, (s.run moves).emissions later = [] →
    (s.run moves).call.SameGate ((s.run moves).run later).call
  /-- Nothing leads back from past the start of the handler. -/
  stays : ∀ later, (s.run moves).call.inbound.isPast = true →
    ((s.run moves).run later).call.inbound.isPast = true
  /-- Whatever comes there is taken, and that is all. -/
  settled : ∀ p : Pass σ P Req, p.call.inbound.isPast = true → p.IsSettled s.method

/-- A call never emits from inside an emission, whatever its interceptors and its handler do. -/
theorem emits_in_turn {moves : List (Move σ P Req Resp)}
    (regular : (fresh method handler compression path shared).Regular moves) :
    (fresh method handler compression path shared).EmitsInTurn moves := by
  obtain ⟨past, never⟩ := takesTurns_run method handler compression path shared regular
  refine ⟨past, fun emission mem scene inside => ?_, ?_, fun _ _ => Pass.act_of_reply?,
    fun later silent => ?_, fun later started => ?_, fun _ => Pass.isSettled_of_isPast⟩
  · have there := Emission.isPast_scenes (past emission mem) scene inside
    exact ⟨there, Pass.reply?_of_isPast there⟩
  · rw [call_run]
    exact never
  · rw [call_run _ later]
    exact Call.sameGate_run _ silent
  · rw [call_run _ later]
    exact Call.isPast_run _ started

end Serving

namespace Meddler

/-- Passes a request inward ahead of every part that goes out, and a failure behind it. -/
def meddling : Interceptor Unit (ResponsePart String) (RequestPart String) where
  outbound _ part :=
    .receive (.headers .empty) (.receive (.message "again" {}) (.receive .finish
      (.send part (.fail (.transport "enough") .done))))

/-- A conversation behind it. -/
def talk : Method Unit String String String where
  shape := .bidirectional
  chain := { interceptors := [meddling] }
  requests := .verbatim
  responses := .verbatim

/-- Writes a message, and returns. -/
def handler : Handler Unit String String Bool where
  start _ _ := false
  wish written := if written then .finish (.ok none) else .write "hello" .deferred fun _ => true

def served : Serving Unit String String String Bool := .fresh talk handler false "/s.S/Do" ()

/-- The headers arrive, and the handler goes on. -/
def greeted : List (Move Unit String String String) :=
  .receive (.headers .empty) :: List.replicate 4 (.task 0 fun _ => .settled (.ok ()))

/-- A message arrives ahead of the headers. -/
def hasty : List (Move Unit String String String) := [.receive (.message "early" {})]

/-- What is passed inward during the emissions of these moves. -/
def inward (moves : List (Move Unit String String String)) :
    List (Arrival (RequestPart String)) :=
  (served.emissions moves).flatMap fun emission =>
    (emission.scenes talk).filterMap fun scene => scene.1.arrival?

/-- What is passed inward with one part. -/
def meddled : List (Arrival (RequestPart String)) :=
  [.part (.headers .empty), .part (.message "again" {}), .part .finish,
    .failure (.transport "enough")]

/-- Neither a handler that writes nor a rejection emits from inside another emission, however much
is passed inward. -/
theorem emits_in_turn_meddled :
    (served.emissions greeted).map Emission.part = [.message "hello" {}, .finish .success .empty] ∧
      inward greeted = meddled ++ meddled ∧ served.EmitsInTurn greeted ∧
      (served.emissions hasty).map Emission.part =
        [.finish (Pass.Rejection.status .beforeHeaders) .empty] ∧
      inward hasty = meddled ++ meddled ∧ served.EmitsInTurn hasty := by
  have greets : served.Regular greeted := .of_calm rfl (by simp [greeted]) (by simp [greeted])
  have hastens : served.Regular hasty := .of_calm rfl (by simp [hasty]) (by simp [hasty])
  exact ⟨rfl, rfl, Serving.emits_in_turn talk handler false "/s.S/Do" () greets,
    rfl, rfl, Serving.emits_in_turn talk handler false "/s.S/Do" () hastens⟩

end Meddler

end RemoteCall.Server
