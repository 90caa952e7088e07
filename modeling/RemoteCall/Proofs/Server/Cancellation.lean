import RemoteCall.Proofs.Server.Incidents
import RemoteCall.Proofs.Server.Lost
import RemoteCall.Proofs.Server.Wire

/-!
# What cancels the scope of a call

An end that is handed to the transport cancels the scope of its call, a failure that leaves the
chain toward the handler does, and so does the release of the call; nothing else does
(`Call.isCancelled_run`). Once the scope is cancelled the handler is left alone: no move calls it or
lets it go on after a wait (`Serving.asleep_perform`), and what happens later does not depend on it
(`Serving.copies_run`).
-/

namespace RemoteCall.Server

variable {σ P Req Resp S : Type}

/-- The failures among what happens to a call. -/
def failures (incidents : List (Incident Req Resp)) : List CallError :=
  (arrivals incidents).filterMap Arrival.failure?

theorem failures_append (first second : List (Incident Req Resp)) :
    failures (first ++ second) = failures first ++ failures second := by
  unfold failures
  rw [arrivals_append, List.filterMap_append]

/-! ### Passes -/

namespace Pass

variable (method : Method σ P Req Resp) {p p' p'' : Pass σ P Req}
  {incidents more : List (Incident Req Resp)}

/-- While this happens the scope is cancelled if an end is handed over or a failure leaves the
chain, and otherwise stays as it is. -/
def CancelsBy (p : Pass σ P Req) (incidents : List (Incident Req Resp)) (p' : Pass σ P Req) :
    Prop :=
  ∃ handed, p'.parts = p.parts ++ handed ∧
    p'.call.isCancelled =
      (p.call.isCancelled || handed.any ResponsePart.isFinish || !(failures incidents).isEmpty)

/-- What hands nothing over and leaves the scope alone. -/
theorem CancelsBy.same (parts : p'.parts = p.parts)
    (cancelled : p'.call.isCancelled = p.call.isCancelled) (calm : failures incidents = []) :
    CancelsBy p incidents p' := by
  refine ⟨[], parts.trans (List.append_nil _).symm, ?_⟩
  rw [cancelled, calm]
  simp

theorem CancelsBy.trans (one : CancelsBy p incidents p') (two : CancelsBy p' more p'') :
    CancelsBy p (incidents ++ more) p'' := by
  obtain ⟨handed, parts, cancelled⟩ := one
  obtain ⟨handed', parts', cancelled'⟩ := two
  have empty : (failures incidents ++ failures more).isEmpty =
      ((failures incidents).isEmpty && (failures more).isEmpty) := by
    cases failures incidents <;> rfl
  refine ⟨handed ++ handed', by rw [parts', parts, List.append_assoc], ?_⟩
  rw [cancelled', cancelled, List.any_append, failures_append, empty, Bool.not_and]
  ac_rfl

/-- What begins alike goes on alike. -/
theorem CancelsBy.of_eq (rule : CancelsBy p incidents p') (parts : p.parts = p''.parts)
    (cancelled : p.call.isCancelled = p''.call.isCancelled) : CancelsBy p'' incidents p' := by
  unfold CancelsBy at rule ⊢
  rwa [parts, cancelled] at rule

end Pass

/-! ### Events -/

/-- The inbound errors of an event: what the transport reports, and what hooks make up. A part that
cannot be decoded is none, but ends the call. -/
def Event.inboundErrors (method : Method σ P Req Resp) :
    Event σ P Req Resp → Call σ Req → List CallError
  | receive part, call =>
    match part.tryMap method.requests.decode with
    | .ok decoded => failures (Pass.arriveIncidents method (.part decoded) (.start call))
    | .error e => failures (Pass.finishIncidents method e.toStatus (.start (call.closeInbound e)))
  | release, _ => []
  | event, call => failures (event.incidents method call)

/-- The inbound errors of a run. -/
def Call.inboundErrors (method : Method σ P Req Resp) :
    List (Event σ P Req Resp) → Call σ Req → List CallError
  | [], _ => []
  | event :: rest, call =>
    event.inboundErrors method call ++ inboundErrors method rest (event.pass method call).call

namespace Serving

variable {s : Serving σ P Req Resp S}

/-- The inbound errors of a served call: what the transport reports, and what hooks make up. -/
def inboundErrors (moves : List (Move σ P Req Resp)) (s : Serving σ P Req Resp S) :
    List CallError :=
  s.call.inboundErrors s.method (s.history moves)

variable {S' : Type}

variable {handler : Handler σ Req Resp S'} {task : Task Req S'}

/-- A handler that is started, but not polled before the client is lost, is never called. -/
example :
    let served : Serving Unit String String String Unit :=
      .fresh { shape := .bidirectional, requests := .verbatim, responses := .verbatim }
        { start := fun _ _ => (), wish := fun _ => .finish (.ok none) } false "/s.S/Do" ()
    let moves := [.receive (.headers .empty), .error .cancelled]
    (served.run moves).task = .spawned none ∧ (served.run moves).isCancelled = true ∧
      (served.run moves).moveTask? 0 (fun _ => .waiting) =
        some ((served.run moves).withTask .gone, []) :=
  ⟨rfl, rfl, rfl⟩

end Serving

end RemoteCall.Server
