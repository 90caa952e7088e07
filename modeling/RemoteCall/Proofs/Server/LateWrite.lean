import RemoteCall.Proofs.Server.Rejection

/-!
# Writing after the end

Whether a call is over is known in two places. The outbound gate is closed when an end enters the
chain, and the order filter when one leaves it. An end that the handler or the request side emits
passes both. One that a hook makes up passes the filter alone: the gate stays open, and what is
written from then on runs through the chain, is dropped behind it, and has nothing to wait for
(`Call.write_over`).

So after the end nothing that is written leaves the call, but the writer learns of it only if an
end was emitted, or the client was lost (`Serving.writes_after_end`). As long as no hook makes up an
end (`Method.MakesUpNoEnd`) the two places agree (`Call.gated_run`).
-/

namespace RemoteCall.Server

variable {σ P Req Resp S : Type}

/-! ### What is emitted after the end -/

namespace Pass

variable (method : Method σ P Req Resp) {p : Pass σ P Req}

/-- The end has passed the filter, and this pass has handed over nothing and waits for nothing. -/
structure IsDry (p : Pass σ P Req) : Prop where
  order : p.call.order = .ended
  parts : p.parts = []
  receipts : p.receipts = []

/-- After the end the filter lets nothing through. -/
theorem toTransport_of_ended (ended : p.call.order = .ended) (part : ResponsePart Resp) :
    toTransport method part p = p := by
  obtain ⟨⟨context, inbound, requests, headersSent, ended, suppressed, order, sent, again⟩, ops,
    receipts⟩ := p
  obtain rfl : order = .ended := ‹_›
  cases part <;> rfl

theorem IsDry.onRequestWhileEmitting (dry : p.IsDry) (part : RequestPart Req) :
    (onRequestWhileEmitting method part p).IsDry := by
  have order := order_advance method.shape.streamsRequests p.call part
  unfold Pass.onRequestWhileEmitting
  cases advanced : advance method.shape.streamsRequests p.call part with
  | mk call reaction =>
    rw [advanced] at order
    have ended := order.trans dry.order
    cases reaction with
    | ignore => exact ⟨ended, dry.parts, dry.receipts⟩
    | start request =>
      exact ⟨ended, (parts_startHandler p request).trans dry.parts, dry.receipts⟩
    | reject reason => exact ⟨ended, dry.parts, dry.receipts⟩

/-- Whatever hooks do meanwhile, nothing comes of it. -/
theorem IsDry.act (dry : p.IsDry)
    (action : EdgeAction σ (ResponsePart Resp) (RequestPart Req)) :
    ((outboundEdges method).act action p).IsDry := by
  cases action with
  | transport part =>
    have same : (outboundEdges method).act (.transport part) p = p :=
      toTransport_of_ended method dry.order part
    rw [same]
    exact dry
  | note update => exact ⟨dry.order, dry.parts, dry.receipts⟩
  | arrive arrival =>
    cases arrival with
    | part part => exact dry.onRequestWhileEmitting method part
    | failure e =>
      exact ⟨(order_closeInbound p.call e).trans dry.order, dry.parts, dry.receipts⟩

theorem IsDry.send (dry : p.IsDry) (part : ResponsePart Resp) : (send method part p).IsDry :=
  method.chain.send_keeps (fun action _ dry => dry.act method action) p.call.context.path part dry

theorem IsDry.openResponse (dry : p.IsDry) (part : ResponsePart Resp) :
    (openResponse method part p).2.IsDry := by
  have opened : p.opened.IsDry := ⟨dry.order, dry.parts, dry.receipts⟩
  unfold Pass.openResponse
  split
  · exact dry
  · cases part with
    | headers m => exact opened
    | message a flags => exact opened.send method _
    | finish status trailers => exact opened.send method _

/-- What is emitted after the end is dropped, and refused only by the gate. -/
theorem IsDry.emit (dry : p.IsDry) (part : ResponsePart Resp) :
    (emit method part p).2.IsDry ∧
      (emit method part p).1 =
        if p.call.ended || p.call.suppressed then .error .streamAlreadyClosed else .ok () := by
  unfold Pass.emit
  split
  · exact ⟨dry, rfl⟩
  · have opened := dry.openResponse method part
    refine ⟨IsDry.send method ?_ _, rfl⟩
    split
    · exact ⟨opened.order, opened.parts, opened.receipts⟩
    · exact opened

end Pass

/-- What is written after the end is handed to nobody. Only the gate refuses it; otherwise there is
nothing to wait for. -/
theorem Call.write_over (method : Method σ P Req Resp) {call : Call σ Req}
    (ended : call.order = .ended) (transport : Bool) (message : Resp) (wish : Compression) :
    (call.write method transport message wish).2.parts = [] ∧
      (call.write method transport message wish).1 =
        if call.ended || call.suppressed then .error .streamAlreadyClosed else .ok [] := by
  have start : (Pass.start call : Pass σ P Req).IsDry := ⟨ended, rfl, rfl⟩
  let part : ResponsePart Resp := .message message (call.context.flags transport wish)
  obtain ⟨dry, answer⟩ := start.emit method part
  rw [write_eq]
  refine ⟨dry.parts, ?_⟩
  show (Pass.emit method part (.start call)).1.map
    (fun _ => (Pass.emit method part (.start call)).2.receipts) = _
  rw [answer, dry.receipts]
  show Except.map _ (if call.ended || call.suppressed then _ else _) = _
  split <;> rfl

/-! ### Ends that were emitted -/

/-- No hook of the chain makes up an end. -/
def Method.MakesUpNoEnd (method : Method σ P Req Resp) : Prop :=
  method.chain.SendsOnly fun part => part.isFinish = false

/-- An end that has passed the filter has entered the chain through the gate. -/
def Call.IsGated (call : Call σ Req) : Prop := call.order = .ended → call.ended = true

namespace Call

variable {call : Call σ Req}

/-- Only the filter and the gate matter. -/
theorem IsGated.of_eq (gated : call.IsGated) {call' : Call σ Req}
    (order : call'.order = call.order) (ended : call'.ended = call.ended) : call'.IsGated := by
  unfold IsGated
  rw [order, ended]
  exact gated

theorem IsGated.closeInbound (gated : call.IsGated) (e : CallError) :
    (call.closeInbound e).IsGated := by
  obtain ⟨requests, same⟩ := Pass.call_closeInbound call e
  rw [same]
  exact gated.of_eq rfl rfl

theorem IsGated.loseClient (gated : call.IsGated) (e : CallError) :
    (call.loseClient e).IsGated :=
  (gated.closeInbound e).of_eq rfl rfl

theorem IsGated.release (gated : call.IsGated) : call.release.IsGated := by
  unfold Call.release
  split
  · exact gated
  · exact gated.loseClient _

theorem IsGated.advance (gated : call.IsGated) (streams : Bool) (part : RequestPart Req) :
    (Pass.advance streams call part).1.IsGated :=
  gated.of_eq (Pass.order_advance streams call part) (Pass.gate_advance streams call part).1

end Call

namespace Pass

variable {method : Method σ P Req Resp} {p : Pass σ P Req}

/-- Nothing that happens while a part runs outward opens the gate. -/
theorem ended_send (ended : p.call.ended = true) (part : ResponsePart Resp) :
    (send method part p).call.ended = true := by
  have ledger : (send method part p).ledger [] [] =
      (p.ledger [] []).after method.shape.streamsRequests (sendIncidents method part p) :=
    ledger_send method part p
  exact (congrArg Ledger.ended ledger).trans ((Ledger.ended_after _).mpr (Or.inl ended))

theorem isGated_toTransport (gated : p.call.IsGated) {part : ResponsePart Resp}
    (body : part.isFinish = false) : (toTransport method part p).call.IsGated := by
  obtain ⟨sent, cancelled, same⟩ := call_toTransport method part p
  rw [same]
  intro ended
  by_cases closed : p.call.order = .ended
  · exact gated closed
  · rw [ResponseOrder.finish_of_allow_ended closed ended] at body
    cases body

theorem isGated_onRequestWhileEmitting (gated : p.call.IsGated) (part : RequestPart Req) :
    (onRequestWhileEmitting method part p).call.IsGated := by
  have advances := gated.advance method.shape.streamsRequests part
  unfold onRequestWhileEmitting
  cases advanced : advance method.shape.streamsRequests p.call part with
  | mk call reaction =>
    rw [advanced] at advances
    cases reaction with
    | ignore => exact advances
    | start request => exact advances
    | reject reason => exact advances.of_eq rfl rfl

theorem isGated_send (only : method.MakesUpNoEnd) (gated : p.call.IsGated)
    {part : ResponsePart Resp} (body : part.isFinish = false) :
    (send method part p).call.IsGated := by
  have arrives : ∀ (arrival : Arrival (RequestPart Req)) (p : Pass σ P Req), p.call.IsGated →
      ((outboundEdges method).arrive arrival p).call.IsGated := by
    intro arrival p gated
    cases arrival with
    | part part => exact isGated_onRequestWhileEmitting gated part
    | failure e => exact gated.loseClient e
  exact Chain.SendsOnly.send_keeps (P := fun p : Pass σ P Req => p.call.IsGated)
    (fun _ _ body gated => isGated_toTransport gated body) arrives
    (fun _ _ gated => gated.of_eq rfl rfl) p.call.context.path only body gated

theorem isGated_openResponse (only : method.MakesUpNoEnd) (gated : p.call.IsGated)
    (part : ResponsePart Resp) : (openResponse method part p).2.call.IsGated := by
  have opened : p.opened.call.IsGated := gated.of_eq rfl rfl
  unfold openResponse
  split
  · exact gated
  · cases part with
    | headers m => exact opened
    | message a flags => exact isGated_send only opened rfl
    | finish status trailers => exact isGated_send only opened rfl

/-- An end closes the gate before it runs through the chain. -/
theorem isGated_emit (only : method.MakesUpNoEnd) (gated : p.call.IsGated)
    (part : ResponsePart Resp) : (emit method part p).2.call.IsGated := by
  have opened := isGated_openResponse only gated part
  unfold emit
  split
  · exact gated
  · cases finish : (openResponse method part p).1.isFinish with
    | true =>
      simp only [finish, if_true]
      exact fun _ => ended_send rfl _
    | false =>
      simp only [finish, Bool.false_eq_true, if_false]
      exact isGated_send only opened finish

theorem isGated_finish (only : method.MakesUpNoEnd) (gated : p.call.IsGated) (status : Status) :
    (finish method status p).call.IsGated :=
  isGated_emit only (p := p.mapCall _) (gated.of_eq rfl rfl) _

theorem isGated_onRequest (only : method.MakesUpNoEnd) (gated : p.call.IsGated)
    (part : RequestPart Req) : (onRequest method part p).call.IsGated := by
  have advances := gated.advance method.shape.streamsRequests part
  unfold onRequest
  cases advanced : advance method.shape.streamsRequests p.call part with
  | mk call reaction =>
    rw [advanced] at advances
    cases reaction with
    | ignore => exact advances
    | start request => exact advances
    | reject reason =>
      exact isGated_finish only (p := { p with call, receipts := [] }) advances reason.status

theorem isGated_arrive (only : method.MakesUpNoEnd) (gated : p.call.IsGated) (path : String)
    (arrival : Arrival (RequestPart Req)) :
    (method.chain.arrive (inboundEdges method) path arrival p).call.IsGated := by
  have arrives : ∀ (arrival : Arrival (RequestPart Req)) (p : Pass σ P Req), p.call.IsGated →
      ((inboundEdges method).arrive arrival p).call.IsGated := by
    intro arrival p gated
    cases arrival with
    | part part => exact isGated_onRequest only gated part
    | failure e => exact gated.loseClient e
  exact Chain.SendsOnly.arrive_keeps (P := fun p : Pass σ P Req => p.call.IsGated)
    (fun _ _ body gated => isGated_toTransport gated body) arrives
    (fun _ _ gated => gated.of_eq rfl rfl) path only arrival gated

end Pass

variable {method : Method σ P Req Resp} {call : Call σ Req}

theorem Event.isGated_pass (only : method.MakesUpNoEnd) (gated : call.IsGated)
    (event : Event σ P Req Resp) : (event.pass method call).call.IsGated := by
  have start : (Pass.start call : Pass σ P Req).call.IsGated := gated
  cases event with
  | receive part =>
    simp only [Event.pass, Call.receive]
    cases part.tryMap method.requests.decode with
    | ok decoded => exact Pass.isGated_arrive only start _ _
    | error e => exact Pass.isGated_finish only (p := .start _) (gated.closeInbound e) _
  | error e => exact (Pass.isGated_arrive only start _ (.failure e)).loseClient e
  | release => exact gated.release
  | write transport message wish =>
    obtain ⟨flags, written⟩ := Call.write_emits method transport message wish call
    show ((call.write method transport message wish).2).call.IsGated
    rw [written]
    exact Pass.isGated_emit only start _
  | finish result =>
    cases result with
    | ok u => exact Pass.isGated_finish only start .success
    | error e => exact Pass.isGated_finish only start e.toStatus
  | use how => exact gated.of_eq rfl rfl
  | poll => exact gated.of_eq rfl rfl
  | abandon => exact gated.of_eq rfl rfl

/-- Without hooks that make up ends, the filter is closed only behind the gate. -/
theorem Call.gated_run (only : method.MakesUpNoEnd) (gated : call.IsGated)
    (events : List (Event σ P Req Resp)) : (call.run method events).IsGated := by
  induction events generalizing call with
  | nil => exact gated
  | cons event rest ih => exact ih (event.isGated_pass only gated)

/-- The gate is closed exactly when an end has entered the chain. -/
theorem Call.ended_run (method : Method σ P Req Resp) (events : List (Event σ P Req Resp))
    (call : Call σ Req) :
    (call.run method events).ended = true ↔
      call.ended = true ∨ ends (call.incidents method events) ≠ [] := by
  induction events generalizing call with
  | nil => simp [run, incidents, ends]
  | cons event rest ih =>
    have ledger := congrArg Ledger.ended (event.ledger_pass method call [] [])
    have tended : ∀ l : Ledger Req, (event.tend l).ended = l.ended := by
      intro l
      cases event <;> rfl
    have first : (event.pass method call).call.ended = true ↔
        call.ended = true ∨ ends (event.incidents method call) ≠ [] := by
      rw [show (event.pass method call).call.ended = _ from ledger, tended]
      exact Ledger.ended_after _
    show ((event.pass method call).call.run method rest).ended = true ↔ _
    rw [ih, first, or_assoc, incidents, ends_append]
    simp only [ne_eq, List.append_eq_nil_iff, Classical.not_and_iff_not_or_not]

/-! ### Served calls -/

namespace Serving

variable {s : Serving σ P Req Resp S}

/-- What comes of a message that is written at this moment: nothing is handed to the transport, and
whoever writes it is told this result without having to wait. -/
structure WriteTells (s : Serving σ P Req Resp S) (message : Resp) (wish : Compression)
    (result : Result Unit) : Prop where
  /-- Somebody else is told as soon as the write goes on, whatever has become of the call. -/
  errand : ∀ signals : Nat → Signal, ∃ batch p,
    s.moveJob? signals (.write message wish) = some (.goesOn (.accept batch), p) ∧ p.parts = [] ∧
      ∀ (later : Serving σ P Req Resp S) (signals' : Nat → Signal),
        later.moveJob? signals' (.accept batch) =
          some (.done (.written result), .start later.call)
  /-- The handler goes on with the result within the poll in which it writes. -/
  handler : ∀ now signals (go : Result Unit → S), ∃ written,
    s.grant now (.write message wish go) = (written, []) ∧
      (written.task = .awake (go result) ∨
        ∃ next, written.moveTask? now signals = some (next, []) ∧
          next.task = .awake (go result))

theorem WriteTells.of_refused {message : Resp} {wish : Compression} {e : CallError}
    (nothing : (s.call.write s.method s.compression message wish).2.parts = [])
    (answer : (s.call.write s.method s.compression message wish).1 = .error e) :
    s.WriteTells message wish (.error e) := by
  obtain ⟨p, written⟩ : ∃ p, s.call.write s.method s.compression message wish = (.error e, p) :=
    ⟨_, Prod.ext answer rfl⟩
  rw [written] at nothing
  refine ⟨fun signals => ⟨.error e, p, ?_, nothing, fun _ _ => rfl⟩, fun now signals go => ?_⟩
  · simp only [moveJob?, written]
  · simp only [grant, written]
    exact ⟨_, Prod.ext rfl nothing, Or.inl rfl⟩

theorem WriteTells.of_accepted {message : Resp} {wish : Compression}
    (nothing : (s.call.write s.method s.compression message wish).2.parts = [])
    (answer : (s.call.write s.method s.compression message wish).1 = .ok []) :
    s.WriteTells message wish (.ok ()) := by
  obtain ⟨p, written⟩ : ∃ p, s.call.write s.method s.compression message wish = (.ok [], p) :=
    ⟨_, Prod.ext answer rfl⟩
  rw [written] at nothing
  refine ⟨fun signals => ⟨.ok [], p, ?_, nothing, fun _ _ => rfl⟩, fun now signals go => ?_⟩
  · simp only [moveJob?, written]
  · simp only [grant, written]
    exact ⟨_, Prod.ext rfl nothing, Or.inr ⟨_, rfl, rfl⟩⟩

/-- The ends that enter the chain in moves. -/
def emittedEnds (moves : List (Move σ P Req Resp)) (s : Serving σ P Req Resp S) :
    List (ResponsePart Resp) :=
  ends (s.call.incidents s.method (s.history moves))

/-- How writes fare behind an end that was handed to the transport in these moves. -/
structure LateWrites (s : Serving σ P Req Resp S) (moves : List (Move σ P Req Resp)) : Prop where
  /-- If an end was emitted, or the client was lost, every write is refused. -/
  refused : s.emittedEnds moves ≠ [] ∨ (s.run moves).call.suppressed = true →
    ∀ message wish, (s.run moves).WriteTells message wish (.error .streamAlreadyClosed)
  /-- If hooks have made up the end, every write is dropped and passes for accepted. -/
  unnoticed : s.emittedEnds moves = [] → (s.run moves).call.suppressed = false →
    ∀ message wish, (s.run moves).WriteTells message wish (.ok ())
  /-- If hooks make up no ends, one was emitted. -/
  emitted : s.method.MakesUpNoEnd → s.emittedEnds moves ≠ []

/-- Whatever is written after the end, by the handler or by anybody who has the writer, is handed
to nobody. It is refused if the end was emitted, as is every end that no hook has made up. -/
theorem writes_after_end (method : Method σ P Req Resp) (handler : Handler σ Req Resp S)
    (compression : Bool) (path : String) (shared : σ) (moves : List (Move σ P Req Resp))
    (finishes : ((fresh method handler compression path shared).outputs moves).any
      ResponsePart.isFinish = true) :
    (fresh method handler compression path shared).LateWrites moves := by
  generalize start : fresh method handler compression path shared = s at finishes ⊢
  have call : s.call = .fresh path shared := by rw [← start]; rfl
  have passed : ResponseOrder.Passed (s.outputs moves) (s.run moves).call.order := by
    have begun : ResponseOrder.Passed ([] : List (ResponsePart P)) s.call.order := by
      rw [call]
      exact .nothing
    have all := Call.passed_run s.method (s.history moves) begun
    rwa [← outputs_eq, ← call_run] at all
  have ended := passed.ended_of_finish finishes
  have gate : (s.run moves).call.ended = true ↔ s.emittedEnds moves ≠ [] := by
    have opened : ¬s.call.ended = true := by
      rw [call]
      exact Bool.false_ne_true
    rw [call_run, Call.ended_run]
    exact or_iff_right opened
  have wrote := Call.write_over (s.run moves).method ended (s.run moves).compression
  refine ⟨fun known message wish => ?_, fun unknown there message wish => ?_, fun only => ?_⟩
  · obtain ⟨nothing, answer⟩ := wrote message wish
    have shut : ((s.run moves).call.ended || (s.run moves).call.suppressed) = true := by
      rw [Bool.or_eq_true, gate]
      exact known
    rw [shut, if_pos rfl] at answer
    exact .of_refused nothing answer
  · obtain ⟨nothing, answer⟩ := wrote message wish
    have opened : (s.run moves).call.ended = false :=
      eq_false_of_ne_true fun closed => gate.mp closed unknown
    rw [opened, there, Bool.or_false, if_neg Bool.false_ne_true] at answer
    exact .of_accepted nothing answer
  · have gated : s.call.IsGated := by
      rw [call]
      nofun
    have closed := Call.gated_run only gated (s.history moves)
    rw [← call_run] at closed
    exact gate.mp (closed ended)

end Serving

namespace Limiter

/-- A conversation behind one interceptor. -/
def behind (i : Interceptor Unit (ResponsePart String) (RequestPart String)) :
    Method Unit String String String where
  shape := .bidirectional
  chain := { interceptors := [i] }
  requests := .verbatim
  responses := .verbatim

/-- Ends the call at the first message of the client. -/
def limiting : Interceptor Unit (ResponsePart String) (RequestPart String) where
  inbound _ part :=
    match part with
    | .message _ _ => .send (.finish ⟨.resourceExhausted, some "limit"⟩ .empty) .done
    | part => .receive part .done

/-- How far the handler has come. -/
inductive Phase where
  | begun
  | reading
  | read

/-- Leaves its writer to somebody else, and returns when it has read a request or none is left. -/
def handler : Handler Unit String String Phase where
  start _ _ := .begun
  wish
    | .begun => .lend .reading
    | .reading => .pull fun _ => .read
    | .read => .finish (.ok none)

def served (i : Interceptor Unit (ResponsePart String) (RequestPart String)) :
    Serving Unit String String String Phase :=
  .fresh (behind i) handler false "/s.S/Do" ()

def going : Move Unit String String String := .task 0 fun _ => .waiting

/-- The handler has left its writer to somebody else and waits for a request. -/
def lent : List (Move Unit String String String) :=
  .receive (.headers .empty) :: List.replicate 4 going

/-- The client sends nothing, and the handler returns. -/
def returned : List (Move Unit String String String) :=
  lent ++ .receive .finish :: List.replicate 2 going

/-- The client sends too much. -/
def exceeded : List (Move Unit String String String) :=
  lent ++ [.receive (.message "hi" {})]

/-- Somebody writes, and waits until the message is accepted. -/
def late : List (Move Unit String String String) :=
  .engage { id := some "late", job := .write "late" .deferred } ::
    List.replicate 2 (.errand fun _ => .waiting)

/-- Where no hook makes up an end, a write is refused once the handler has returned. -/
theorem refused_after_return :
    (behind .forward).MakesUpNoEnd ∧
      (served .forward).outputs returned = [.headers .empty, .finish .success .empty] ∧
      ((served .forward).run returned).WriteTells "late" .deferred
        (.error .streamAlreadyClosed) := by
  have only : (behind .forward).MakesUpNoEnd := by
    intro i member
    rw [List.mem_singleton.mp member]
    refine ⟨fun _ _ body => ⟨body, trivial⟩, fun _ arrival => ?_⟩
    cases arrival <;> exact trivial
  have outputs : (served .forward).outputs returned =
      [.headers .empty, .finish .success .empty] := rfl
  have writes : (served .forward).LateWrites returned :=
    Serving.writes_after_end (behind .forward) handler false "/s.S/Do" () returned
      (congrArg (List.any · ResponsePart.isFinish) outputs)
  exact ⟨only, outputs, writes.refused (Or.inl (writes.emitted only)) "late" .deferred⟩

/-- After the end that the interceptor makes up, a write is dropped, and its writer is told that it
was accepted. -/
theorem unnoticed_after_limit :
    (served limiting).outputs exceeded = [.finish ⟨.resourceExhausted, some "limit"⟩ .empty] ∧
      ((served limiting).run exceeded).outputs late = [] ∧
      ((served limiting).run (exceeded ++ late)).finished = [("late", .written (.ok ()))] :=
  ⟨rfl, rfl, rfl⟩

end Limiter

end RemoteCall.Server
