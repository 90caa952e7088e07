import RemoteCall.Proofs.Server.Lost
import RemoteCall.Proofs.Server.StreamedRequest

/-!
# Silence once the client is gone

When the transport reports that the client is gone, or lets go of a call that is not over, the
call is lost: its request side is closed, its scope is cancelled and its output is suppressed. As
long as the hooks for what arrives send nothing back (`Chain.SendsNothingBack`), whatever happens
afterwards leaves it like that and hands nothing to the transport (`Call.IsShut`): not what others
write, not the return of the handler, and not what the transport still delivers. A stream of
requests that had no end gives the messages that wait in it, and then the failure
(`Serving.silent_once_lost`).
-/

namespace RemoteCall.Server

variable {σ P Req Resp S : Type} {method : Method σ P Req Resp}

/-! ### A closed request side -/

/-- A closed request side stays closed, and its stream is left as it is. -/
theorem Ledger.after_of_closed {l : Ledger Req} (closed : l.inbound = .closed) (streams : Bool)
    (incidents : List (Incident Req Resp)) :
    (l.after streams incidents).inbound = .closed ∧
      (l.after streams incidents).requests = l.requests := by
  induction incidents generalizing l with
  | nil => exact ⟨closed, rfl⟩
  | cons incident rest ih =>
    show ((l.step streams incident).after streams rest).inbound = .closed ∧
      ((l.step streams incident).after streams rest).requests = l.requests
    cases incident with
    | entry part => exact ih closed
    | arrival arrival =>
      cases arrival with
      | part part =>
        rw [step_part_of_over (Or.inr closed)]
        exact ih closed
      | failure e =>
        rw [step_failure_of_not_streaming (by rw [closed]; nofun)]
        exact ih rfl

namespace Call

variable {call : Call σ Req} {waiting : List Req} {outcome : Result Unit}

/-- To a closed request side an event does nothing but what the holder of the stream does, or
what leaving it does. -/
theorem closed_pass (method : Method σ P Req Resp) (closed : call.inbound = .closed)
    (event : Event σ P Req Resp) :
    (event.pass method call).call.inbound = .closed ∧
      (event.pass method call).call.requests = (event.tend (call.ledger [] [])).requests := by
  have ledger := event.ledger_pass method call [] []
  obtain ⟨stays, same⟩ := Ledger.after_of_closed (l := call.ledger [] []) closed
    method.shape.streamsRequests (event.incidents method call)
  have inbound := congrArg Ledger.inbound ledger
  have requests := congrArg Ledger.requests ledger
  refine ⟨?_, ?_⟩
  · refine Eq.trans inbound (Eq.trans ?_ stays)
    cases event <;> rfl
  · refine Eq.trans requests ?_
    unfold Event.tend
    cases event <;> simp only [same]

/-- Every poll of such a stream gives the next message that waits, and the end once there are no
more. -/
theorem answers_of_closed (closed : call.inbound = .closed)
    (yields : call.requests.Yields waiting (some outcome)) (events : List (Event σ P Req Resp))
    {n : Nat} {answer : Poll (Result (Option Req))}
    (answered : (call.answers method events)[n]? = some answer) :
    answer = MessageStream.offer (waiting.drop n) (some outcome) := by
  induction events generalizing call waiting n with
  | nil => cases answered
  | cons event rest ih =>
    obtain ⟨stays, requests⟩ := closed_pass method closed event
    cases event with
    | poll =>
      obtain ⟨first, later⟩ := yields.pull
      cases n with
      | zero =>
        cases answered
        exact first
      | succ n =>
        have next := ih stays (by rw [requests]; exact later) answered
        rwa [List.drop_tail] at next
    | abandon => exact ih stays (by rw [requests]; exact yields.abandon) answered
    | receive part => exact ih stays (by rw [requests]; exact yields) answered
    | error e => exact ih stays (by rw [requests]; exact yields) answered
    | release => exact ih stays (by rw [requests]; exact yields) answered
    | write transport message compression =>
      exact ih stays (by rw [requests]; exact yields) answered
    | finish result => exact ih stays (by rw [requests]; exact yields) answered
    | use how => exact ih stays (by rw [requests]; exact yields) answered

end Call

/-! ### A call that is shut -/

/-- A call that is lost, and whose request side takes nothing any more. -/
structure Call.IsShut (call : Call σ Req) : Prop extends call.IsLost where
  closed : call.inbound = .closed

/-- Nothing was asked for yet in the course of what happens to such a call. -/
structure Pass.IsShut (p : Pass σ P Req) : Prop where
  call : p.call.IsShut
  silent : p.ops = []

theorem Pass.IsShut.parts {p : Pass σ P Req} (shut : p.IsShut) : p.parts = [] := by
  unfold Pass.parts
  rw [shut.silent]
  rfl

namespace Call

variable {call : Call σ Req}

theorem isShut_loseClient (call : Call σ Req) (e : CallError) : (call.loseClient e).IsShut := by
  refine ⟨⟨rfl, rfl⟩, ?_⟩
  obtain ⟨requests, same⟩ := Pass.call_closeInbound call e
  show (call.closeInbound e).inbound = .closed
  rw [same]

theorem IsShut.closeInbound (shut : call.IsShut) (e : CallError) :
    call.closeInbound e = call := by
  obtain ⟨context, inbound, requests, headersSent, ended, suppressed, order, sent, again⟩ := call
  obtain rfl : inbound = .closed := shut.closed
  rfl

end Call

namespace Pass

theorem IsShut.finish {p : Pass σ P Req} (shut : p.IsShut) (status : Status) :
    (Pass.finish method status p).IsShut := by
  have staged : (p.mapCall fun call =>
      { call with context := { call.context with trailers := .empty } }).IsShut :=
    ⟨⟨⟨shut.call.suppressed, shut.call.cancelled⟩, shut.call.closed⟩, shut.silent⟩
  have refused : Pass.finish method status p = _ :=
    congrArg Prod.snd (staged.call.emit (.finish status p.call.context.trailers))
  rw [refused]
  exact staged

/-- Whatever arrives, a chain that sends nothing back leaves such a call as it is. -/
theorem IsShut.arrive (quiet : method.chain.SendsNothingBack) {p : Pass σ P Req} (shut : p.IsShut)
    (path : String) (arrival : Arrival (RequestPart Req)) :
    (method.chain.arrive (Pass.inboundEdges method) path arrival p).IsShut := by
  have arrives : ∀ arrival (p : Pass σ P Req), p.IsShut →
      ((Pass.inboundEdges method).arrive arrival p).IsShut := by
    intro arrival p shut
    cases arrival with
    | part part =>
      have ignores : Pass.advance method.shape.streamsRequests p.call part = (p.call, .ignore) :=
        Pass.advance_of_over (Or.inr shut.call.closed) part
      show (p.onRequest method part).IsShut
      rw [(Pass.onRequest_of_ignores ignores).1]
      exact shut
    | failure e => exact ⟨Call.isShut_loseClient p.call e, shut.silent⟩
  have notes : ∀ update (p : Pass σ P Req), p.IsShut →
      ((Pass.inboundEdges method).note update p).IsShut := fun update p shut =>
    ⟨⟨⟨shut.call.suppressed, shut.call.cancelled⟩, shut.call.closed⟩, shut.silent⟩
  exact quiet.arrive_keeps (fun arrival p _ => arrives arrival p) notes path trivial shut

end Pass

namespace Call

variable {call : Call σ Req}

/-- Nothing that happens to such a call opens it again or hands anything on. -/
theorem IsShut.pass (quiet : method.chain.SendsNothingBack) (shut : call.IsShut)
    (event : Event σ P Req Resp) :
    (event.pass method call).call.IsShut ∧ (event.pass method call).parts = [] := by
  have start : (Pass.start call : Pass σ P Req).IsShut := ⟨shut, rfl⟩
  cases own : event.isOwn with
  | true =>
    obtain ⟨lost, silent⟩ : (event.pass method call).call.IsLost ∧
        (event.pass method call).parts = [] := shut.toIsLost.event own
    exact ⟨⟨lost, (closed_pass method shut.closed event).1⟩, silent⟩
  | false =>
    cases event with
    | receive part =>
      simp only [Event.pass, receive]
      cases part.tryMap method.requests.decode with
      | ok decoded =>
        have after := start.arrive quiet call.context.path (.part decoded)
        exact ⟨after.call, after.parts⟩
      | error e =>
        have after : (Pass.finish method e.toStatus (.start call)).IsShut :=
          start.finish e.toStatus
        rw [← shut.closeInbound e] at after
        exact ⟨after.call, after.parts⟩
    | error e =>
      have after := start.arrive quiet call.context.path (.failure e)
      refine ⟨isShut_loseClient _ e, ?_⟩
      exact after.parts
    | release =>
      have same : ((Event.release : Event σ P Req Resp).pass method call).call = call :=
        shut.toIsLost.release
      exact ⟨same.symm ▸ shut, rfl⟩
    | _ => cases own

theorem IsShut.run (quiet : method.chain.SendsNothingBack) (shut : call.IsShut)
    (events : List (Event σ P Req Resp)) :
    (call.run method events).IsShut ∧ call.outputs method events = [] := by
  induction events generalizing call with
  | nil => exact ⟨shut, rfl⟩
  | cons event rest ih =>
    obtain ⟨first, silent⟩ := shut.pass quiet event
    obtain ⟨stays, nothing⟩ := ih first
    refine ⟨stays, ?_⟩
    rw [outputs, silent, nothing]
    rfl

end Call

/-- A stream of requests that was closed before its end gives what was not shown yet, and then the
failure that closed it. -/
theorem Call.yields_failure (streams : method.shape.streamsRequests = true) (path : String)
    (shared : σ) {events : List (Event σ P Req Resp)}
    (fed : ∀ event ∈ events, event.abandons = false)
    (arrives : arrivals ((fresh path shared).incidents method events) ≠ [])
    (closed : ((fresh path shared).run method events).inbound = .closed)
    (started : (fresh path shared).starts method events ≠ [])
    (unfinished : closing? (arrivals ((fresh path shared).incidents method events)) ≠
      some (.ok ())) :
    ∃ waiting e,
      closing? (arrivals ((fresh path shared).incidents method events)) = some (.error e) ∧
      content (arrivals ((fresh path shared).incidents method events)) =
        ((fresh path shared).answers method events).filterMap MessageStream.pulledItem? ++
          waiting ∧
      ((fresh path shared).run method events).requests.Yields waiting (some (.error e)) := by
  cases feeds_run_of_fed streams path shared fed with
  | idle nothing idle never unshown keeps => exact absurd nothing arrives
  | lost closed never => exact absurd never started
  | @feeds waiting past streaming messages keeps =>
    have stopped : ((fresh path shared).account method events).inbound = .closed := closed
    have yields := keeps.yields
    cases closing : closing? (arrivals ((fresh path shared).incidents method events)) with
    | none =>
      rw [streaming.mpr closing] at stopped
      cases stopped
    | some outcome =>
      rw [closing] at unfinished yields
      cases outcome with
      | ok u => exact absurd rfl unfinished
      | error e => exact ⟨waiting, e, rfl, messages, yields⟩

/-! ### Served calls -/

namespace Serving

variable {s : Serving σ P Req Resp S}

/-- What arrives at the request side in moves. -/
def arrived (moves : List (Move σ P Req Resp)) (s : Serving σ P Req Resp S) :
    List (Arrival (RequestPart Req)) :=
  arrivals (s.call.incidents s.method (s.history moves))

/-- The starts of the handler in moves. -/
def starts (moves : List (Move σ P Req Resp)) (s : Serving σ P Req Resp S) : List (Option Req) :=
  s.call.starts s.method (s.history moves)

/-- What the polls of the request stream give in moves. -/
def answers (moves : List (Move σ P Req Resp)) (s : Serving σ P Req Resp S) :
    List (Poll (Result (Option Req))) :=
  s.call.answers s.method (s.history moves)

/-- Whether with this move the transport, which holds on to the call, gives up on its client: it
reports a failure, or lets go of a call that is not over. -/
def Loses (s : Serving σ P Req Resp S) : Move σ P Req Resp → Prop
  | .error _ => s.held = true
  | .release => s.held = true ∧ s.isCancelled = false
  | _ => False

theorem Loses.held {move : Move σ P Req Resp} (loses : s.Loses move) : s.held = true := by
  cases move with
  | error e => exact loses
  | release => exact loses.1
  | _ => exact absurd loses id

/-- However the chain takes it, the call is shut, and a failure has closed its request side. -/
theorem Loses.perform {loss : Move σ P Req Resp} (loses : s.Loses loss) :
    (s.perform loss).1.call.IsShut ∧ s.arrived [loss] ≠ [] ∧
      ∀ event ∈ s.events loss, event.abandons = false := by
  cases loss with
  | error e =>
    refine ⟨Call.isShut_loseClient _ e, ?_, List.forall_mem_singleton.mpr rfl⟩
    show arrivals ((_ ++ [.arrival (.failure e)]) ++ []) ≠ []
    simp [arrivals, Incident.arrival?]
  | release =>
    have going : ¬s.call.isCancelled = true := ne_true_of_eq_false loses.2
    refine ⟨?_, ?_, List.forall_mem_singleton.mpr rfl⟩
    · show (s.call.release).IsShut
      unfold Call.release
      rw [if_neg going]
      exact Call.isShut_loseClient _ _
    · show arrivals (Event.release.incidents s.method s.call ++ []) ≠ []
      simp [Event.incidents, going, arrivals, Incident.arrival?]
  | _ => exact absurd loses id

theorem arrived_append (s : Serving σ P Req Resp S) (first second : List (Move σ P Req Resp)) :
    s.arrived (first ++ second) = s.arrived first ++ (s.run first).arrived second := by
  unfold arrived
  rw [history_append, Call.incidents_append, arrivals_append, ← call_run, method_run]

/-- As long as the transport holds on to a call, its stream of requests is not left. -/
theorem fed_of_held {moves : List (Move σ P Req Resp)} (held : (s.run moves).held = true) :
    s.held = true ∧ ∀ event ∈ s.history moves, event.abandons = false := by
  induction moves generalizing s with
  | nil => exact ⟨held, List.forall_mem_nil _⟩
  | cons move rest ih =>
    obtain ⟨after, fed⟩ := ih (s := (s.perform move).1) held
    have stays : move ≠ .release := by
      rintro rfl
      cases after
    rw [held_perform s stays] at after
    refine ⟨after, List.forall_mem_append.mpr ⟨fun event mem => ?_, fed⟩⟩
    cases own : move.isTransport with
    | true =>
      cases move with
      | receive part => rw [List.mem_singleton.mp mem]; rfl
      | error e => rw [List.mem_singleton.mp mem]; rfl
      | release => exact absurd rfl stays
      | _ => cases own
    | false =>
      by_cases dissolves : move = .dissolve
      · subst dissolves
        have undissolved : s.dissolve? = none := by simp [dissolve?, isHeld, after]
        simp [events, undissolved] at mem
      · have work := isWork_events s own dissolves event mem
        cases event with
        | abandon => cases work
        | _ => rfl

/-- Whatever happens `later` to a call that has lost its client in these moves. -/
structure Silenced (s : Serving σ P Req Resp S) (moves later : List (Move σ P Req Resp)) :
    Prop where
  /-- Nothing is handed to the transport. -/
  nothing : (s.run moves).outputs later = []
  cancelled : (s.run (moves ++ later)).isCancelled = true
  /-- Every write is refused and does nothing. -/
  refuses : ∀ transport message compression,
    (s.run (moves ++ later)).call.write s.method transport message compression =
      (.error .streamAlreadyClosed, .start (s.run (moves ++ later)).call)
  /-- A stream of requests whose end has not arrived has been closed by a failure. Every poll gives
  the next message that was not shown yet, and the failure once there are no more. -/
  requests : s.method.shape.streamsRequests = true → s.starts moves ≠ [] →
    closing? (s.arrived moves) ≠ some (.ok ()) →
    ∃ waiting e, closing? (s.arrived moves) = some (.error e) ∧
      content (s.arrived moves) =
        (s.answers moves).filterMap MessageStream.pulledItem? ++ waiting ∧
      ∀ n answer, ((s.run moves).answers later)[n]? = some answer →
        answer = MessageStream.offer (waiting.drop n) (some (.error e))

/-- A call that has lost its client says nothing more, whoever its handler is, whatever the
interceptors make of the failure, and whatever happens afterwards. -/
theorem silent_once_lost (method : Method σ P Req Resp) (quiet : method.chain.SendsNothingBack)
    (handler : Handler σ Req Resp S) (compression : Bool) (path : String) (shared : σ)
    (before : List (Move σ P Req Resp)) (loss : Move σ P Req Resp)
    (loses : ((fresh method handler compression path shared).run before).Loses loss)
    (later : List (Move σ P Req Resp)) :
    (fresh method handler compression path shared).Silenced (before ++ [loss]) later := by
  generalize start : fresh method handler compression path shared = s at loses ⊢
  obtain rfl : s.method = method := start ▸ rfl
  obtain ⟨shut, arrives, undone⟩ := loses.perform
  have fed := (fed_of_held loses.held).2
  have serves := method_run s
  rw [← run_concat] at shut
  obtain ⟨still, nothing⟩ := shut.run quiet ((s.run (before ++ [loss])).history later)
  rw [← serves (before ++ [loss]), ← call_run, ← run_append] at still
  rw [← serves (before ++ [loss]), ← outputs_eq] at nothing
  refine ⟨nothing, still.cancelled, fun transport message wish => ?_, ?_⟩
  · have lost : (Pass.start (s.run (before ++ [loss] ++ later)).call :
      Pass σ P Req).call.IsLost := still.toIsLost
    simp only [Call.write]
    rw [lost.emit]
  · intro streams started unfinished
    have call : s.call = .fresh path shared := by rw [← start]; rfl
    have all_fed : ∀ event ∈ s.history (before ++ [loss]), event.abandons = false := by
      rw [history_append]
      exact List.forall_mem_append.mpr ⟨fed, by rwa [history, history, List.append_nil]⟩
    have some_arrived : s.arrived (before ++ [loss]) ≠ [] := by
      rw [arrived_append]
      exact List.append_ne_nil_of_right_ne_nil _ arrives
    have closed := shut.closed
    rw [call_run] at closed
    unfold arrived at some_arrived unfinished
    unfold starts at started
    rw [call] at some_arrived unfinished started closed
    obtain ⟨waiting, e, ends, left, yields⟩ :=
      Call.yields_failure streams path shared all_fed some_arrived closed started unfinished
    rw [← call] at ends left yields
    rw [← call_run] at yields
    refine ⟨waiting, e, ends, left, fun n answer answered => ?_⟩
    exact Call.answers_of_closed shut.closed yields _ answered

end Serving

end RemoteCall.Server
