import RemoteCall.Proofs.Server.Dispatch
import RemoteCall.Proofs.Server.Wire

/-!
# Rejecting a request

A part that deviates from what a method takes makes one end enter the chain, which says why, and
nothing comes after it. That takes an outbound gate that is open: it is, as long as only a handler
and those it gave its writer to write (`Orderly`), since nothing but that, a failure and a
rejection lets the end enter or closes the gate.
-/

namespace RemoteCall.Server

variable {σ P Req Resp : Type}

/-! ### Emission -/

namespace Pass

variable (method : Method σ P Req Resp)

theorem ends_sendIncidents (part : ResponsePart Resp) (p : Pass σ P Req) :
    ends (sendIncidents method part p) = [] :=
  ends_map_arrival _

theorem ends_openIncidents (part : ResponsePart Resp) (p : Pass σ P Req) :
    ends (openIncidents method part p) = [] := by
  unfold openIncidents
  split
  · rfl
  · cases part with
    | headers m => rfl
    | message a flags => exact ends_sendIncidents method _ p.opened
    | finish status trailers => exact ends_sendIncidents method _ p.opened

/-- Through an open gate the end enters the chain, and no other one. -/
theorem ends_emitIncidents (status : Status) (trailers : Metadata) {p : Pass σ P Req}
    (gate : (p.call.ended || p.call.suppressed) = false) :
    ends (emitIncidents method (.finish status trailers) p) = [.finish status trailers] := by
  have same : (openResponse method (.finish status trailers) p).1 = .finish status trailers := by
    unfold openResponse
    split <;> rfl
  unfold emitIncidents
  rw [gate, if_neg Bool.false_ne_true]
  generalize openResponse method (.finish status trailers) p = opening at same
  obtain ⟨first, q⟩ := opening
  obtain rfl : first = .finish status trailers := same
  refine (ends_append _ _).trans ?_
  rw [ends_openIncidents, List.nil_append]
  exact (ends_append [.entry _] _).trans (congrArg _ (ends_sendIncidents method _ _))

/-- Once the end has entered, nothing more does. -/
theorem emitIncidents_of_ended (part : ResponsePart Resp) {p : Pass σ P Req}
    (ended : p.call.ended = true) : emitIncidents method part p = [] := by
  unfold emitIncidents
  simp [ended]

end Pass

/-! ### What incidents keep -/

namespace Ledger

variable {streams : Bool} {l : Ledger Req}

theorem isPast_after (streams : Bool) (incidents : List (Incident Req Resp))
    (past : l.inbound.isPast = true) :
    (l.after streams incidents).inbound.isPast = true := by
  induction incidents generalizing l with
  | nil => exact past
  | cons incident rest ih =>
    apply ih
    cases incident with
    | entry part => exact past
    | arrival arrival =>
      cases arrival with
      | failure e =>
        obtain ⟨requests, stepped⟩ := step_failure Resp streams l e
        rw [stepped]
        rfl
      | part part =>
        obtain ⟨inbound, requests, stepped, stays, -⟩ :=
          step_part_of_isPast Resp streams past part
        rw [stepped]
        exact stays

/-- The end has entered if it was among the incidents or had entered before. -/
theorem ended_after (incidents : List (Incident Req Resp)) :
    (l.after streams incidents).ended = true ↔ l.ended = true ∨ ends incidents ≠ [] := by
  induction incidents generalizing l with
  | nil => simp [ends]
  | cons incident rest ih =>
    have first : ends (incident :: rest) = ends [incident] ++ ends rest :=
      ends_append [incident] rest
    show ((l.step streams incident).after streams rest).ended = true ↔ _
    rw [ih, first]
    cases incident with
    | arrival arrival =>
      have kept : (l.step streams (.arrival arrival : Incident Req Resp)).ended = l.ended := by
        cases arrival <;> rfl
      rw [kept]
      exact Iff.rfl
    | entry part =>
      cases finish : part.isFinish with
      | false => simp [step, ends, Incident.entry?, finish]
      | true => simp [step, ends, Incident.entry?, finish]

end Ledger

/-- After these incidents: where the call stands, and which ends have entered the chain. -/
structure Tracks (streams : Bool) (history : List (Incident Req Resp)) (l : Ledger Req)
    (suppressed : Bool) : Prop where
  stands : l.Stands streams (arrivals history)
  ended : l.ended = true ↔ ends history ≠ []
  /-- The gate is open until the request side is past the start of the handler. -/
  early : l.inbound.isPast = false → l.ended = false ∧ suppressed = false
  rejected : ∀ reason, Deviates streams reason (said (arrivals history)) →
    ∃ trailers, ends history = [.finish reason.status trailers]

namespace Tracks

variable {streams : Bool} {history : List (Incident Req Resp)} {l : Ledger Req}
  {suppressed : Bool}

theorem fresh : Tracks streams ([] : List (Incident Req Resp)) ({} : Ledger Req) false :=
  ⟨Ledger.stands_fresh, by simp [ends], fun _ => ⟨rfl, rfl⟩, fun _ deviates => by cases deviates⟩

/-- Of the facts above two follow from the incidents. -/
theorem extend (tracks : Tracks streams history l suppressed)
    (incidents : List (Incident Req Resp)) {suppressed' : Bool}
    (early : (l.after streams incidents).inbound.isPast = false →
      (l.after streams incidents).ended = false ∧ suppressed' = false)
    (rejected : ∀ reason, Deviates streams reason (said (arrivals (history ++ incidents))) →
      ∃ trailers, ends (history ++ incidents) = [.finish reason.status trailers]) :
    Tracks streams (history ++ incidents) (l.after streams incidents) suppressed' := by
  refine ⟨?_, ?_, early, rejected⟩
  · rw [arrivals_append]
    exact tracks.stands.after incidents
  · rw [Ledger.ended_after, tracks.ended, ends_append]
    simp only [ne_eq, List.append_eq_nil_iff, Classical.not_and_iff_not_or_not]

/-- Past the start of the handler incidents keep them all, if no end enters behind another. -/
theorem extend_of_isPast (tracks : Tracks streams history l suppressed)
    (past : l.inbound.isPast = true) (incidents : List (Incident Req Resp))
    (once : l.ended = true → ends incidents = []) (suppressed' : Bool) :
    Tracks streams (history ++ incidents) (l.after streams incidents) suppressed' := by
  refine tracks.extend incidents (fun waits => ?_) fun reason deviates => ?_
  · rw [Ledger.isPast_after streams incidents past] at waits
    cases waits
  · rw [arrivals_append] at deviates
    have before := tracks.stands.deviates_of_isPast past _ deviates
    obtain ⟨trailers, only⟩ := tracks.rejected reason before
    have gone : l.ended = true := tracks.ended.mpr (by simp [only])
    exact ⟨trailers, by rw [ends_append, only, once gone, List.append_nil]⟩

theorem failure (tracks : Tracks streams history l suppressed) (e : CallError)
    (suppressed' : Bool) :
    Tracks streams (history ++ [.arrival (.failure e)])
      (l.step streams (.arrival (.failure e) : Incident Req Resp)) suppressed' := by
  refine tracks.extend [.arrival (.failure e)] (fun waits => ?_) fun reason deviates => ?_
  · obtain ⟨requests, stepped⟩ := Ledger.step_failure Resp streams l e
    rw [show l.after streams [(.arrival (.failure e) : Incident Req Resp)] = _ from stepped]
      at waits
    cases waits
  · rw [arrivals_append] at deviates
    have told : said (arrivals history ++ arrivals [(.arrival (.failure e) : Incident Req Resp)]) =
        said (arrivals history) := said_failure _ e
    rw [told] at deviates
    obtain ⟨trailers, only⟩ := tracks.rejected reason deviates
    exact ⟨trailers, by rw [ends_append, only]; rfl⟩

/-- A part that does not deviate leaves the gate as it is. -/
theorem take (tracks : Tracks streams history l suppressed) (early : l.inbound.isPast = false)
    (part : RequestPart Req)
    (fine : ∀ reason, ¬Deviates streams reason (said (arrivals history ++ [.part part]))) :
    Tracks streams (history ++ [.arrival (.part part)])
      (l.step streams (.arrival (.part part) : Incident Req Resp)) suppressed := by
  refine tracks.extend [.arrival (.part part)] (fun _ => tracks.early early)
    fun reason deviates => ?_
  rw [arrivals_append] at deviates
  exact absurd deviates (fine reason)

/-- Before the request side is past the start of the handler, no end has entered. -/
theorem ends_eq_nil (tracks : Tracks streams history l suppressed)
    (early : l.inbound.isPast = false) : ends history = [] :=
  Classical.byContradiction fun some =>
    Bool.false_ne_true ((tracks.early early).1.symm.trans (tracks.ended.mpr some))

/-- The first part that deviates makes the end enter through the gate, which is open. -/
theorem reject (tracks : Tracks streams history l suppressed) (early : l.inbound.isPast = false)
    (part : RequestPart Req) {reason : Pass.Rejection}
    (deviates : Deviates streams reason (said (arrivals history ++ [.part part])))
    (past : (l.step streams (.arrival (.part part) : Incident Req Resp)).inbound.isPast = true)
    {incidents : List (Incident Req Resp)} {trailers : Metadata}
    (end_ : ends incidents = [.finish reason.status trailers]) (suppressed' : Bool) :
    Tracks streams (history ++ .arrival (.part part) :: incidents)
      (l.after streams (.arrival (.part part) :: incidents)) suppressed' := by
  refine tracks.extend _ (fun waits => ?_) fun reason' deviates' => ?_
  · have stays := Ledger.isPast_after streams incidents past
    rw [show l.after streams (.arrival (.part part) :: incidents) =
      (l.step streams (.arrival (.part part) : Incident Req Resp)).after streams incidents
      from rfl, stays] at waits
    cases waits
  · have told : arrivals (history ++ .arrival (.part part) :: incidents) =
        arrivals history ++ [.part part] ++ arrivals incidents := by
      rw [arrivals_append, List.append_assoc]
      rfl
    obtain ⟨more, said_⟩ := exists_said_append (arrivals history ++ [.part part])
      (arrivals incidents)
    rw [told, said_] at deviates'
    rw [deviates'.unique (deviates.append more), ends_append, tracks.ends_eq_nil early,
      List.nil_append]
    exact ⟨trailers, end_⟩

/-- What is not about the request side or the gate does not matter. -/
theorem of_eq (tracks : Tracks streams history l suppressed) {l' : Ledger Req}
    (inbound : l'.inbound = l.inbound) (headers : l'.headers = l.headers)
    (ended : l'.ended = l.ended) (starts : l'.starts = l.starts) :
    Tracks streams history l' suppressed := by
  obtain ⟨stands, entered, early, rejected⟩ := tracks
  refine ⟨?_, by rwa [ended], by rwa [inbound, ended], rejected⟩
  cases stands with
  | waits fine never waits =>
    exact .waits fine (starts.trans never) (by rwa [inbound, headers])
  | cut gone never closed waits =>
    exact .cut gone (starts.trans never) (inbound.trans closed) (by rwa [headers])
  | rejected never closed deviates =>
    exact .rejected (starts.trans never) (inbound.trans closed) deviates
  | single single once past told =>
    exact .single single (starts.trans once) (by rwa [inbound]) (by rwa [headers])
  | stream stream once past told =>
    exact .stream stream (starts.trans once) (by rwa [inbound]) (by rwa [headers])

end Tracks

namespace Pass

variable (method : Method σ P Req Resp) {starts : List (Option Req)}
  {answers : List (Poll (Result (Option Req)))} {history : List (Incident Req Resp)}

/-- After these incidents a pass is where it should be. -/
def Tracks (history : List (Incident Req Resp)) (starts : List (Option Req))
    (answers : List (Poll (Result (Option Req)))) (p : Pass σ P Req) : Prop :=
  Server.Tracks method.shape.streamsRequests history (p.ledger starts answers) p.call.suppressed

variable {method} {p : Pass σ P Req}

/-- What is emitted past the start of the handler. -/
theorem Tracks.emit (tracks : p.Tracks method history starts answers)
    (past : p.call.inbound.isPast = true) (part : ResponsePart Resp) :
    (emit method part p).2.Tracks method (history ++ emitIncidents method part p) starts
      answers := by
  unfold Pass.Tracks
  rw [ledger_emit]
  refine tracks.extend_of_isPast past _ (fun ended => ?_) _
  rw [emitIncidents_of_ended method part ended]
  rfl

theorem Tracks.finish (tracks : p.Tracks method history starts answers)
    (past : p.call.inbound.isPast = true) (status : Status) :
    (finish method status p).Tracks method (history ++ finishIncidents method status p) starts
      answers :=
  Tracks.emit (p := p.mapCall fun call =>
    { call with context := { call.context with trailers := .empty } }) tracks past _

theorem suppressed_toTransport (part : ResponsePart Resp) (p : Pass σ P Req) :
    (toTransport method part p).call.suppressed = p.call.suppressed := by
  obtain ⟨sent, cancelled, same⟩ := call_toTransport method part p
  rw [same]

/-- A part does not touch the outbound gate. -/
theorem gate_advance (streams : Bool) (call : Call σ Req) (part : RequestPart Req) :
    (advance streams call part).1.ended = call.ended ∧
      (advance streams call part).1.suppressed = call.suppressed := by
  obtain ⟨inbound, requests, headers, same⟩ := call_advance streams call part
  rw [same]
  exact ⟨rfl, rfl⟩

theorem Tracks.loseClient (tracks : p.Tracks method history starts answers) (e : CallError) :
    (p.mapCall (·.loseClient e)).Tracks method (history ++ [.arrival (.failure e)]) starts
      answers := by
  unfold Pass.Tracks
  rw [ledger_loseClient method e p]
  exact tracks.failure e true

/-- If a part that arrives is rejected, the end enters the chain. -/
theorem Tracks.onRequest (tracks : p.Tracks method history starts answers)
    (part : RequestPart Req) :
    (onRequest method part p).Tracks method (history ++ requestIncidents method part p) starts
      answers := by
  unfold Pass.Tracks
  rw [ledger_onRequest]
  cases past : p.call.inbound.isPast with
  | true =>
    refine tracks.extend_of_isPast past _ (fun _ => ?_) _
    have ignored := (advance_of_isPast past method.shape.streamsRequests part).1
    unfold requestIncidents
    cases advanced : advance method.shape.streamsRequests p.call part with
    | mk call reaction =>
      rw [advanced] at ignored
      rw [show reaction = .ignore from ignored]
      rfl
  | false =>
    -- Here the part may be the first one that deviates.
    obtain ⟨fine, never, waits⟩ := tracks.stands.of_not_isPast past
    obtain ⟨unended, unsuppressed⟩ := tracks.early past
    have waits : Waits method.shape.streamsRequests (said (arrivals history)) p.call.inbound
        p.call.context.headers := waits
    have takes := waits.advance part
    rw [← said_part fine] at takes
    have gate := gate_advance method.shape.streamsRequests p.call part
    have stepped : _ = (p.ledger starts answers).step method.shape.streamsRequests
        (.arrival (.part part) : Incident Req Resp) :=
      ledger_advance method.shape.streamsRequests p.call part
    unfold requestIncidents Pass.onRequest
    cases advanced : advance method.shape.streamsRequests p.call part with
    | mk call reaction =>
      rw [advanced] at takes gate stepped
      cases reaction with
      | ignore => exact gate.2 ▸ tracks.take past part fun reason => by simp [takes.deviates_iff]
      | start request =>
        exact gate.2 ▸ tracks.take past part fun reason => by simp [takes.deviates_iff]
      | reject reason =>
        refine tracks.reject past part ((takes.deviates_iff reason).mpr rfl) ?_
          (ends_emitIncidents method _ _ ?_) _
        · cases takes with
          | rejects closed deviates =>
            have closes : _ = call.inbound := (congrArg Ledger.inbound stepped).symm
            refine (congrArg Inbound.isPast closes).trans ?_
            rw [show call.inbound = .closed from closed]
            rfl
        · show (call.ended || call.suppressed) = false
          rw [gate.1, gate.2, show p.call.ended = false from unended, unsuppressed]
          rfl

theorem Tracks.act (tracks : p.Tracks method history starts answers)
    (action : EdgeAction σ (ResponsePart Resp) (RequestPart Req)) :
    ((inboundEdges method).act action p).Tracks method
      (history ++ actIncidents method action p) starts answers := by
  cases action with
  | transport part =>
    unfold Pass.Tracks
    rw [show ((inboundEdges method).act (.transport part) p) = toTransport method part p from rfl,
      ledger_toTransport, suppressed_toTransport]
    exact (List.append_nil history).symm ▸ tracks
  | note update => exact (List.append_nil history).symm ▸ tracks
  | arrive arrival =>
    cases arrival with
    | part part => exact tracks.onRequest part
    | failure e => exact tracks.loseClient e

theorem Tracks.replay (tracks : p.Tracks method history starts answers)
    (actions : List (EdgeAction σ (ResponsePart Resp) (RequestPart Req))) :
    ((inboundEdges method).replay actions p).Tracks method
      (history ++ replayIncidents method actions p) starts answers := by
  induction actions generalizing p history with
  | nil => exact (List.append_nil history).symm ▸ tracks
  | cons action rest ih =>
    have all := ih (tracks.act action)
    rw [List.append_assoc] at all
    exact all

theorem Tracks.arrive (tracks : p.Tracks method history starts answers)
    (arrival : Arrival (RequestPart Req)) :
    (method.chain.arrive (inboundEdges method) p.call.context.path arrival p).Tracks method
      (history ++ arriveIncidents method arrival p) starts answers := by
  have replayed := tracks.replay
    (method.chain.arriveTrace (inboundEdges method) p.call.context.path arrival p)
  rwa [Chain.replay_arriveTrace] at replayed

end Pass

end RemoteCall.Server
