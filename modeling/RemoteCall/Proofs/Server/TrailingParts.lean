import RemoteCall.Proofs.Server.Dispatch
import RemoteCall.Proofs.Server.Lost
import RemoteCall.Proofs.Server.Reply
import RemoteCall.Proofs.Server.TaskMoves

/-!
# Parts behind the end of a request

Once the end of a request has arrived, the call is the handler's and its request side takes nothing
any more. But every part is decoded before it gets there, and a part that cannot be decoded ends
the call, wherever the request side stands. So without interceptors a further part is ignored if it
can be decoded, and otherwise only if the call is over anyway (`Serving.trailing`).

That a part is ignored is a statement about two runs: with it and without it everybody sees the
same, and the transport is handed the same, whatever happens later. A call that is over remembers a
part that could not be decoded in two places, and nobody looks at either: so two such calls that
differ in nothing else stay like that (`Serving.Alike.perform`, `Serving.Alike.run`).
-/

namespace RemoteCall.Server

variable {σ P Req Resp S : Type} {method : Method σ P Req Resp}

/-! ### What becomes of a call without interceptors -/

/-- Without interceptors a call is in one of two conditions. -/
inductive Call.Condition (call : Call σ Req) : Prop
  | going (flows : call.Flows) (uncancelled : call.isCancelled = false)
  | ended (shut : call.voice.IsShut) (cancelled : call.isCancelled = true)

namespace Call

variable {call : Call σ Req}

theorem condition_fresh (path : String) (shared : σ) :
    (fresh path shared : Call σ Req).Condition :=
  .going ⟨rfl, rfl, rfl⟩ rfl

/-- The condition depends on the output and on the scope only. -/
theorem Condition.of_eq (condition : call.Condition) {call' : Call σ Req}
    (voice : call'.voice = call.voice) (cancelled : call'.isCancelled = call.isCancelled) :
    call'.Condition := by
  cases condition with
  | going flows uncancelled =>
    obtain ⟨ended, suppressed, order⟩ := flows
    have same := voice
    injection same with ended' suppressed' headersSent' order'
    refine .going ⟨ended'.trans ended, suppressed'.trans suppressed, ?_⟩
      (cancelled.trans uncancelled)
    rw [order', headersSent']
    exact order
  | ended shut gone => exact .ended (voice ▸ shut) (cancelled.trans gone)

/-- Whether the call is over can be seen from its scope. -/
theorem Condition.cancelled_iff (condition : call.Condition) :
    call.isCancelled = true ↔ call.voice.IsShut := by
  cases condition with
  | going flows uncancelled =>
    refine iff_of_false (ne_true_of_eq_false uncancelled) fun shut => ?_
    have closed : (call.ended || call.suppressed) = true := shut
    rw [flows.ended, flows.suppressed] at closed
    cases closed
  | ended shut cancelled => exact iff_of_true cancelled shut

/-- What is emitted at a call that is over is refused, and its end is dropped with the trailers
for it. -/
theorem finish_of_shut (shut : call.voice.IsShut) (status : Status) :
    Pass.finish method status (.start call) =
      .start { call with context := { call.context with trailers := .empty } } := by
  let dropped : Pass σ P Req :=
    .start { call with context := { call.context with trailers := .empty } }
  have refused : Pass.emit method (.finish status call.context.trailers) dropped =
      (.error .streamAlreadyClosed, dropped) := Pass.emit_of_shut shut _
  exact congrArg Prod.snd refused

theorem Condition.finish (plain : method.chain = .empty) (condition : call.Condition)
    (status : Status) : (Pass.finish method status (.start call)).call.Condition := by
  cases condition with
  | going flows uncancelled =>
    rw [Pass.finish_plain plain flows]
    exact .ended rfl rfl
  | ended shut cancelled =>
    rw [finish_of_shut shut]
    exact .ended shut cancelled

theorem condition_loseClient (call : Call σ Req) (e : CallError) : (call.loseClient e).Condition :=
  .ended (Bool.or_true _) rfl

theorem Condition.closeInbound (condition : call.Condition) (e : CallError) :
    (call.closeInbound e).Condition := by
  refine condition.of_eq (call.voice_closeInbound e) ?_
  obtain ⟨requests, same⟩ := Pass.call_closeInbound call e
  rw [same]
  rfl

theorem Condition.greeted (flows : call.Flows) (uncancelled : call.isCancelled = false)
    (sent : Nat) : { call.greeted with sent }.Condition := by
  obtain ⟨⟨ended, suppressed, order⟩, -, -⟩ := flows.greeted
  refine .going ⟨ended, suppressed, order⟩ ?_
  rw [← uncancelled]
  unfold Call.greeted Call.isCancelled
  cases call.headersSent <;> rfl

theorem Condition.write (plain : method.chain = .empty) (condition : call.Condition)
    (message : Resp) (flags : MessageFlags) :
    (Pass.emit method (.message message flags) (.start call)).2.call.Condition := by
  cases condition with
  | ended shut cancelled =>
    have refused : Pass.emit method (.message message flags) (.start call) =
        (.error .streamAlreadyClosed, .start call) := Pass.emit_of_shut shut _
    rw [refused]
    exact .ended shut cancelled
  | going flows uncancelled =>
    cases encodes : method.responses.encode message with
    | ok payload =>
      rw [Pass.emit_message plain flows encodes]
      exact Condition.greeted flows uncancelled _
    | error e =>
      rw [Pass.emit_unencodable plain flows encodes]
      exact Condition.greeted flows uncancelled _

theorem Condition.onRequest (plain : method.chain = .empty) (condition : call.Condition)
    (part : RequestPart Req) : (Pass.onRequest method part (.start call)).call.Condition := by
  have voice := Pass.voice_advance method.shape.streamsRequests call part
  have cancelled := Pass.isCancelled_advance method.shape.streamsRequests call part
  unfold Pass.onRequest Pass.start
  cases advanced : Pass.advance method.shape.streamsRequests call part with
  | mk call' reaction =>
    rw [advanced] at voice cancelled
    have advances := condition.of_eq voice cancelled
    cases reaction with
    | ignore => exact advances
    | start request => exact advances
    | reject reason => exact advances.finish plain reason.status

/-- Every event leaves a call in one of the two conditions. -/
theorem Condition.pass (plain : method.chain = .empty) (condition : call.Condition)
    (event : Event σ P Req Resp) : (event.pass method call).call.Condition := by
  cases event with
  | receive part =>
    show (call.receive method part).call.Condition
    cases decodes : part.tryMap method.requests.decode with
    | ok decoded =>
      rw [receive_plain plain decodes]
      exact condition.onRequest plain decoded
    | error e =>
      unfold Call.receive
      rw [decodes]
      exact (condition.closeInbound e).finish plain e.toStatus
  | error e => exact condition_loseClient _ e
  | release =>
    show call.release.Condition
    unfold Call.release
    split
    · exact condition
    · exact condition_loseClient call _
  | write transport message wish =>
    simp only [Event.pass, write_eq]
    exact condition.write plain message _
  | finish result =>
    cases result with
    | ok u => exact condition.finish plain .success
    | error e => exact condition.finish plain e.toStatus
  | use how =>
    have cancelled : (how.apply call.context).cancelled = call.isCancelled := by cases how <;> rfl
    cases condition with
    | going flows uncancelled =>
      exact .going ⟨flows.ended, flows.suppressed, flows.order⟩ (cancelled.trans uncancelled)
    | ended shut gone => exact .ended shut (cancelled.trans gone)
  | poll => exact condition.of_eq rfl rfl
  | abandon => exact condition.of_eq rfl rfl

theorem Condition.run (plain : method.chain = .empty) (condition : call.Condition)
    (events : List (Event σ P Req Resp)) : (call.run method events).Condition := by
  induction events generalizing call with
  | nil => exact condition
  | cons event rest ih => exact ih (condition.pass plain event)

/-! ### A call that is over -/

/-- The call with another end of its request side, and with other trailers staged. -/
def retouched (call : Call σ Req) (inbound : Inbound Req) (trailers : Metadata) : Call σ Req :=
  { call with inbound, context := { call.context with trailers } }

/-- Nothing goes out any more, and the request side takes nothing any more. -/
structure IsSpent (call : Call σ Req) : Prop where
  shut : call.voice.IsShut
  gone : call.inbound = .running ∨ call.inbound = .closed

theorem IsSpent.retouched (spent : call.IsSpent) {inbound : Inbound Req}
    (gone : inbound = .running ∨ inbound = .closed) (trailers : Metadata) :
    (call.retouched inbound trailers).IsSpent :=
  ⟨spent.shut, gone⟩

theorem IsSpent.write (spent : call.IsSpent) (transport : Bool) (message : Resp)
    (wish : Compression) :
    call.write method transport message wish = (.error .streamAlreadyClosed, .start call) := by
  have refused : Pass.emit method (.message message (call.context.flags transport wish))
      (.start call) = (.error .streamAlreadyClosed, .start call) :=
    Pass.emit_of_shut spent.shut _
  rw [write_eq, refused]
  rfl

theorem IsSpent.finish (spent : call.IsSpent) (result : Result Unit) :
    call.finish method result = .start (call.retouched call.inbound .empty) := by
  cases result with
  | ok u => exact finish_of_shut spent.shut .success
  | error e => exact finish_of_shut spent.shut e.toStatus

theorem closeInbound_of_gone (gone : call.inbound = .running ∨ call.inbound = .closed)
    (e : CallError) : call.closeInbound e = call.retouched .closed call.context.trailers := by
  unfold closeInbound
  rcases gone with at_ | at_ <;> rw [at_] <;> rfl

theorem receive_of_decodes (plain : method.chain = .empty)
    (gone : call.inbound = .running ∨ call.inbound = .closed) {part : RequestPart P}
    {decoded : RequestPart Req} (decodes : part.tryMap method.requests.decode = .ok decoded) :
    call.receive method part = .start call := by
  rw [receive_plain plain decodes]
  exact (Pass.onRequest_of_ignores (p := .start call) (Pass.advance_of_over gone decoded)).1

/-- A part that cannot be decoded ends a call that is not over. -/
theorem Flows.receive (plain : method.chain = .empty) (flows : call.Flows)
    (gone : call.inbound = .running ∨ call.inbound = .closed) {part : RequestPart P}
    {e : CallError} (unreadable : part.tryMap method.requests.decode = .error e) :
    call.receive method part =
      .handing call (call.retouched .closed call.context.trailers).concluded
        (call.greeting ++ [.finish e.toStatus call.context.trailers]) := by
  have closed : (call.retouched .closed call.context.trailers).Flows :=
    ⟨flows.ended, flows.suppressed, flows.order⟩
  unfold Call.receive
  rw [unreadable]
  simp only
  rw [closeInbound_of_gone gone]
  exact Pass.finish_plain plain closed e.toStatus

theorem IsSpent.receive (spent : call.IsSpent)
    {part : RequestPart P} {e : CallError}
    (unreadable : part.tryMap method.requests.decode = .error e) :
    call.receive method part = .start (call.retouched .closed .empty) := by
  unfold Call.receive
  rw [unreadable]
  simp only
  rw [closeInbound_of_gone spent.gone]
  exact finish_of_shut (spent.retouched (.inr rfl) _).shut e.toStatus

theorem IsSpent.receiveError (plain : method.chain = .empty) (spent : call.IsSpent)
    (e : CallError) :
    call.receiveError method e =
      .start ({ call.retouched .closed call.context.trailers with suppressed := true }.cancelScope)
    := by
  have once : call.receiveError method e = .start ((call.loseClient e).loseClient e) := by
    unfold Call.receiveError
    rw [plain]
    rfl
  rw [once]
  unfold loseClient
  rw [closeInbound_of_gone spent.gone]
  rfl

end Call

/-! ### Served calls that look the same -/

/-- A wait at the call ends as it would at the other one. -/
theorem Wait.resume?_retouched (now : Nat) (signals : Nat → Signal) (call : Call σ Req)
    (inbound : Inbound Req) (trailers : Metadata) (wait : Wait Req S) :
    wait.resume? now signals (call.retouched inbound trailers) =
      (wait.resume? now signals call).map fun r => (r.1, r.2.retouched inbound trailers) := by
  cases wait with
  | request go =>
    simp only [resume?, Call.retouched]
    cases call.requests.pull with
    | mk answer requests => cases answer <;> rfl
  | receipts batch go =>
    simp only [resume?]
    cases Receipt.awaitAll signals batch <;> rfl
  | cancellation go =>
    by_cases cancelled : call.isCancelled = true
    · have cancelled' : (call.retouched inbound trailers).isCancelled = true := cancelled
      simp only [resume?, cancelled, cancelled', if_true, Option.map_some]
    · have cancelled' : ¬(call.retouched inbound trailers).isCancelled = true := cancelled
      simp only [resume?, cancelled, cancelled', Bool.false_eq_true, if_false, Option.map_none]
  | time due go =>
    simp only [resume?]
    split <;> rfl
  | response batch =>
    simp only [resume?]
    cases Receipt.awaitAll signals batch <;> rfl

/-- The end of a wait changes at most the request stream. -/
theorem Wait.exists_of_resume? {now : Nat} {signals : Nat → Signal} {call : Call σ Req}
    {wait : Wait Req S} {r : Resumption S × Call σ Req}
    (resumed : wait.resume? now signals call = some r) :
    ∃ requests, r.2 = { call with requests } := by
  cases wait with
  | request go =>
    simp only [resume?] at resumed
    cases pulled : call.requests.pull with
    | mk answer requests =>
      rw [pulled] at resumed
      cases answer with
      | pending => cases resumed
      | ready answer =>
        cases resumed
        exact ⟨requests, rfl⟩
  | receipts batch go =>
    obtain ⟨result, -, rfl⟩ := Option.map_eq_some_iff.mp resumed
    exact ⟨call.requests, rfl⟩
  | cancellation go =>
    obtain ⟨-, h⟩ := Option.ite_none_right_eq_some.mp resumed
    cases h
    exact ⟨call.requests, rfl⟩
  | time due go =>
    obtain ⟨-, h⟩ := Option.ite_none_right_eq_some.mp resumed
    cases h
    exact ⟨call.requests, rfl⟩
  | response batch =>
    obtain ⟨result, -, rfl⟩ := Option.map_eq_some_iff.mp resumed
    exact ⟨call.requests, rfl⟩

/-- Which errand moves does not depend on what its move is read as. -/
theorem next?_map {J α β : Type} {f : J → Option β} {g : J → Option α} {read : α → β}
    (same : ∀ job, f job = (g job).map read) (errands : List (Errand J)) :
    Errand.next? f errands = (Errand.next? g errands).map fun found =>
      (found.1, found.2.1, read found.2.2.1, found.2.2.2) := by
  unfold Errand.next?
  rw [← pickFirst?_map]
  refine pickFirst?_congr fun errand _ => ?_
  rw [same]
  split <;> rfl

namespace Serving

variable {s s' : Serving σ P Req Resp S}

/-- Two served calls that are spent and differ in nothing but how their request side came to its
end, and in the trailers that are staged. -/
structure Alike (s s' : Serving σ P Req Resp S) : Prop where
  plain : s.method.chain = .empty
  same : ∃ inbound trailers, s' = { s with call := s.call.retouched inbound trailers }
  spent : s.call.IsSpent
  spent' : s'.call.IsSpent

/-- Two moves that hand nothing to the transport and leave two calls that look the same. -/
structure BothSilent (out out' : Serving σ P Req Resp S × List (ResponsePart P)) : Prop where
  alike : out.1.Alike out'.1
  left : out.2 = []
  right : out'.2 = []

theorem BothSilent.intro (plain : s.method.chain = .empty) (shut : s.call.voice.IsShut)
    (gone : s.call.inbound = .running ∨ s.call.inbound = .closed) {inbound : Inbound Req}
    (gone' : inbound = .running ∨ inbound = .closed) {trailers : Metadata} :
    BothSilent (s, []) ({ s with call := s.call.retouched inbound trailers }, []) :=
  ⟨⟨plain, ⟨inbound, trailers, rfl⟩, ⟨shut, gone⟩, ⟨shut, gone'⟩⟩, rfl, rfl⟩

namespace Alike

/-- The handler returns, which nobody notices. -/
theorem conclude (alike : s.Alike s') (result : Result Unit) :
    BothSilent (s.conclude result) (s'.conclude result) := by
  obtain ⟨plain, ⟨inbound, trailers, rfl⟩, spent, spent'⟩ := alike
  have shut := spent.shut
  have gone := spent.gone
  have gone' := spent'.gone
  unfold Serving.conclude
  rw [spent.finish, spent'.finish]
  apply BothSilent.intro <;> assumption

theorem grant (alike : s.Alike s') (now : Nat) (wish : Wish σ Req Resp S) :
    BothSilent (s.grant now wish) (s'.grant now wish) := by
  have concludes := alike.conclude
  obtain ⟨plain, ⟨inbound, trailers, rfl⟩, spent, spent'⟩ := alike
  have shut := spent.shut
  have gone := spent.gone
  have gone' := spent'.gone
  cases wish with
  | pull go =>
    unfold Serving.grant
    by_cases reads : s.hasRequests = true
    · have reads' : Serving.hasRequests
          { s with call := s.call.retouched inbound trailers } = true := reads
      simp only [reads, reads', if_true]
      apply BothSilent.intro <;> assumption
    · have reads' : ¬Serving.hasRequests
          { s with call := s.call.retouched inbound trailers } = true := reads
      simp only [reads, reads', Bool.false_eq_true, if_false]
      apply BothSilent.intro <;> assumption
  | write message compression go =>
    simp only [Serving.grant]
    rw [spent.write, spent'.write]
    apply BothSilent.intro <;> assumption
  | finish result =>
    cases result with
    | error e => exact concludes (.error e)
    | ok response =>
      cases response with
      | none => exact concludes (.ok ())
      | some response =>
        simp only [Serving.grant]
        rw [spent.write, spent'.write]
        exact concludes (.error .streamAlreadyClosed)
  | _ => apply BothSilent.intro <;> assumption

/-- A wait that is polled ends in both or in neither. -/
theorem resume (alike : s.Alike s') (now : Nat) (signals : Nat → Signal) (wait : Wait Req S)
    (task : Task Req S) :
    BothSilent (((wait.resume? now signals s.call).map s.resume).getD (s.withTask task, []))
      (((wait.resume? now signals s'.call).map s'.resume).getD (s'.withTask task, [])) := by
  obtain ⟨plain, ⟨inbound, trailers, rfl⟩, spent, spent'⟩ := alike
  have shut := spent.shut
  have gone := spent.gone
  have gone' := spent'.gone
  show BothSilent _ (((wait.resume? now signals (s.call.retouched inbound trailers)).map
    _).getD _)
  rw [Wait.resume?_retouched]
  cases resumed : wait.resume? now signals s.call with
  | none => apply BothSilent.intro <;> assumption
  | some r =>
    obtain ⟨requests, same⟩ := Wait.exists_of_resume? resumed
    obtain ⟨resumption, call⟩ := r
    obtain rfl : call = { s.call with requests } := same
    cases resumption with
    | state state => apply BothSilent.intro <;> assumption
    | returned result =>
      have both : Alike { s with call := { s.call with requests } }
          { s with call := { s.call.retouched inbound trailers with requests } } :=
        ⟨plain, ⟨inbound, trailers, rfl⟩, ⟨shut, gone⟩, ⟨shut, gone'⟩⟩
      exact both.conclude result

theorem withTask (alike : s.Alike s') (task : Task Req S) :
    BothSilent (s.withTask task, []) (s'.withTask task, []) := by
  obtain ⟨plain, ⟨inbound, trailers, rfl⟩, ⟨shut, gone⟩, ⟨_, gone'⟩⟩ := alike
  apply BothSilent.intro <;> assumption

/-- What a move of the task looks at. -/
theorem looks (alike : s.Alike s') : s'.task = s.task ∧ s'.isCancelled = s.isCancelled ∧
    s'.path = s.path ∧ s'.handler = s.handler := by
  obtain ⟨-, ⟨inbound, trailers, rfl⟩, -, -⟩ := alike
  exact ⟨rfl, rfl, rfl, rfl⟩

theorem moveTask? (alike : s.Alike s') (now : Nat) (signals : Nat → Signal) :
    BothSilent ((s.moveTask? now signals).getD (s, []))
      ((s'.moveTask? now signals).getD (s', [])) := by
  have here : BothSilent (s, []) (s', []) := ⟨alike, rfl, rfl⟩
  obtain ⟨task, cancelled, path, handler⟩ := alike.looks
  unfold Serving.moveTask?
  rw [task, cancelled, path, handler]
  cases at_ : s.task with
  | absent => exact here
  | gone => exact here
  | spawned request =>
    simp only
    split <;> exact alike.withTask _
  | awake state => exact alike.grant now _
  | checking wait =>
    have polled := alike.resume now signals wait (.waiting wait)
    cases resumed : wait.resume? now signals s.call <;>
      cases resumed' : wait.resume? now signals s'.call <;>
      rw [resumed, resumed'] at polled <;> simp only [resumed, resumed'] <;> exact polled
  | waiting wait =>
    simp only
    split
    · exact alike.withTask .gone
    · have polled := alike.resume now signals wait s.task
      rwa [show s.withTask s.task = s from rfl, ← task, show s'.withTask s'.task = s' from rfl]
        at polled

theorem tick (alike : s.Alike s') (now : Nat) : BothSilent (s.tick now, []) (s'.tick now, []) := by
  have here : BothSilent (s, []) (s', []) := ⟨alike, rfl, rfl⟩
  obtain ⟨task, cancelled, -, -⟩ := alike.looks
  unfold Serving.tick
  rw [task, cancelled]
  split
  · split
    · exact alike.withTask _
    · exact here
  · exact here

/-- Somebody's job goes on as it does at the other call, and writes nothing. -/
theorem moveJob? (alike : s.Alike s') (signals : Nat → Signal) (job : Job Resp) :
    ∃ turn : Option (Turn (Job Resp) Answer),
      s.moveJob? signals job = turn.map (fun turn => (turn, .start s.call)) ∧
      s'.moveJob? signals job = turn.map (fun turn => (turn, .start s'.call)) := by
  obtain ⟨-, cancelled, -, -⟩ := alike.looks
  cases job with
  | write message wish =>
    refine ⟨some (.goesOn (.accept (.error .streamAlreadyClosed))), ?_, ?_⟩
    · simp only [Serving.moveJob?, alike.spent.write]
      rfl
    · simp only [Serving.moveJob?, alike.spent'.write]
      rfl
  | accept batch =>
    cases batch with
    | error e => exact ⟨some (.done (.written (.error e))), rfl, rfl⟩
    | ok receipts =>
      refine ⟨(Receipt.awaitAll signals receipts).map fun result => .done (.written result), ?_, ?_⟩
      · rw [Option.map_map]
        rfl
      · rw [Option.map_map]
        rfl
  | awaitCancelled =>
    refine ⟨if s.isCancelled then some (.done .cancelled) else none, ?_, ?_⟩
    · simp only [Serving.moveJob?]
      split <;> rfl
    · simp only [Serving.moveJob?, cancelled]
      split <;> rfl

theorem moveErrand? (alike : s.Alike s') (signals : Nat → Signal) :
    BothSilent ((s.moveErrand? signals).getD (s, [])) ((s'.moveErrand? signals).getD (s', [])) := by
  have here : BothSilent (s, []) (s', []) := ⟨alike, rfl, rfl⟩
  choose turn left right using alike.moveJob? signals
  have next := next?_map left s.errands
  have next' := next?_map right s.errands
  obtain ⟨inbound, trailers, rfl⟩ := alike.same
  obtain ⟨plain, -, ⟨shut, gone⟩, ⟨-, gone'⟩⟩ := alike
  unfold Serving.moveErrand?
  rw [next]
  simp only
  rw [next']
  cases Errand.next? turn s.errands with
  | none => exact here
  | some found =>
    obtain ⟨before, errand, turn, behind⟩ := found
    cases turn with
    | goesOn job => apply BothSilent.intro <;> assumption
    | done answer => apply BothSilent.intro <;> assumption

theorem receive (alike : s.Alike s') (part : RequestPart P) :
    BothSilent (s.receive part) (s'.receive part) := by
  have here : BothSilent (s, []) (s', []) := ⟨alike, rfl, rfl⟩
  obtain ⟨inbound, trailers, rfl⟩ := alike.same
  obtain ⟨plain, -, spent, spent'⟩ := alike
  have shut := spent.shut
  have closed : (.closed : Inbound Req) = .running ∨ (.closed : Inbound Req) = .closed := .inr rfl
  unfold Serving.receive
  cases decodes : part.tryMap s.method.requests.decode with
  | ok decoded =>
    rw [Call.receive_of_decodes plain spent.gone decodes,
      Call.receive_of_decodes plain spent'.gone decodes]
    exact here
  | error e =>
    rw [spent.receive decodes, spent'.receive decodes]
    apply BothSilent.intro <;> assumption

theorem receiveError (alike : s.Alike s') (e : CallError) :
    BothSilent (s.receiveError e) (s'.receiveError e) := by
  obtain ⟨inbound, trailers, rfl⟩ := alike.same
  obtain ⟨plain, -, spent, spent'⟩ := alike
  have suppressed : (s.call.ended || true) = true := Bool.or_true _
  have closed : (.closed : Inbound Req) = .running ∨ (.closed : Inbound Req) = .closed := .inr rfl
  unfold Serving.receiveError
  rw [spent.receiveError plain, spent'.receiveError plain]
  apply BothSilent.intro <;> assumption

theorem release (alike : s.Alike s') : BothSilent (s.release, []) (s'.release, []) := by
  obtain ⟨inbound, trailers, rfl⟩ := alike.same
  obtain ⟨plain, -, spent, spent'⟩ := alike
  have shut := spent.shut
  have gone := spent.gone
  have gone' := spent'.gone
  have suppressed : (s.call.ended || true) = true := Bool.or_true _
  have closed : (.closed : Inbound Req) = .running ∨ (.closed : Inbound Req) = .closed := .inr rfl
  unfold Serving.release Call.release
  by_cases cancelled : s.call.isCancelled = true
  · have cancelled' : (s.call.retouched inbound trailers).isCancelled = true := cancelled
    simp only [cancelled, cancelled', if_true]
    apply BothSilent.intro <;> assumption
  · have cancelled' : ¬(s.call.retouched inbound trailers).isCancelled = true := cancelled
    simp only [cancelled, cancelled', Call.loseClient]
    rw [Call.closeInbound_of_gone spent.gone, Call.closeInbound_of_gone spent'.gone]
    apply BothSilent.intro <;> assumption

theorem dissolve (alike : s.Alike s') :
    BothSilent (s.dissolve?.getD s, []) (s'.dissolve?.getD s', []) := by
  obtain ⟨inbound, trailers, rfl⟩ := alike.same
  obtain ⟨plain, -, spent, spent'⟩ := alike
  have shut := spent.shut
  have gone := spent.gone
  have gone' := spent'.gone
  have free : Serving.dissolve? { s with call := s.call.retouched inbound trailers } =
      s.dissolve?.map fun t => { t with call := t.call.retouched inbound trailers } := by
    unfold Serving.dissolve?
    show (if s.isHeld || s.dissolved then _ else _) =
      Option.map _ (if s.isHeld || s.dissolved then _ else _)
    split <;> rfl
  rw [free]
  cases taken : s.dissolve? with
  | none => apply BothSilent.intro <;> assumption
  | some t =>
    obtain ⟨-, taken⟩ := Option.ite_none_left_eq_some.mp taken
    cases taken
    apply BothSilent.intro <;> assumption

theorem use (alike : s.Alike s') (how : Use σ) :
    BothSilent ({ s with call := { s.call with context := how.apply s.call.context } }, [])
      ({ s' with call := { s'.call with context := how.apply s'.call.context } }, []) := by
  obtain ⟨inbound, trailers, rfl⟩ := alike.same
  obtain ⟨plain, -, spent, spent'⟩ := alike
  have shut := spent.shut
  have gone := spent.gone
  have gone' := spent'.gone
  cases how <;> apply BothSilent.intro <;> assumption

/-- Two calls that look the same stay like that, and silent, whatever move is made at both. -/
theorem perform (alike : s.Alike s') (move : Move σ P Req Resp) :
    BothSilent (s.perform move) (s'.perform move) := by
  cases move with
  | task now signals => exact alike.moveTask? now signals
  | tick now => exact alike.tick now
  | errand signals => exact alike.moveErrand? signals
  | receive part => exact alike.receive part
  | error e => exact alike.receiveError e
  | release => exact alike.release
  | use how => exact alike.use how
  | dissolve => exact alike.dissolve
  | _ =>
    obtain ⟨inbound, trailers, rfl⟩ := alike.same
    obtain ⟨plain, -, ⟨shut, gone⟩, ⟨-, gone'⟩⟩ := alike
    apply BothSilent.intro <;> assumption

theorem run (alike : s.Alike s') (moves : List (Move σ P Req Resp)) :
    (s.run moves).Alike (s'.run moves) ∧ s.outputs moves = [] ∧ s'.outputs moves = [] := by
  induction moves generalizing s s' with
  | nil => exact ⟨alike, rfl, rfl⟩
  | cons move rest ih =>
    obtain ⟨goesOn, left, right⟩ := alike.perform move
    obtain ⟨stays, nothing, nothing'⟩ := ih goesOn
    refine ⟨stays, ?_, ?_⟩
    · rw [outputs, left, nothing]
      rfl
    · rw [outputs, right, nothing']
      rfl

end Alike

/-! ### Further parts -/

/-- A served call as it looks to everybody: what became of its request side after the end of the
request, and the trailers that are staged, are left out. -/
def facade (s : Serving σ P Req Resp S) : Serving σ P Req Resp S :=
  { s with call := s.call.retouched .closed .empty }

theorem Alike.facade (alike : s.Alike s') : s'.facade = s.facade := by
  obtain ⟨-, ⟨inbound, trailers, rfl⟩, -, -⟩ := alike
  rfl

/-- A part is ignored: nothing is handed to the transport for it, and whatever happens later,
everybody sees what they would see without it, and so does the transport. -/
structure Ignores (s : Serving σ P Req Resp S) (part : RequestPart P) : Prop where
  silent : (s.receive part).2 = []
  looks : ∀ later, ((s.receive part).1.run later).facade = (s.run later).facade
  outputs : ∀ later, (s.receive part).1.outputs later = s.outputs later

theorem Ignores.of_unchanged {part : RequestPart P} (unchanged : s.receive part = (s, [])) :
    s.Ignores part := by
  constructor
  · rw [unchanged]
  · intro later
    rw [unchanged]
  · intro later
    rw [unchanged]

/-- To a call that is over every part is as good as none. -/
theorem ignores_of_spent (plain : s.method.chain = .empty) (spent : s.call.IsSpent)
    (part : RequestPart P) : s.Ignores part := by
  have alike : s.Alike s := ⟨plain, ⟨_, _, rfl⟩, spent, spent⟩
  cases decodes : part.tryMap s.method.requests.decode with
  | ok decoded =>
    refine .of_unchanged ?_
    unfold receive
    rw [Call.receive_of_decodes plain spent.gone decodes]
    rfl
  | error e =>
    have received : s.receive part = ({ s with call := s.call.retouched .closed .empty }, []) := by
      unfold receive
      rw [spent.receive decodes]
      rfl
    have touched : s.Alike { s with call := s.call.retouched .closed .empty } :=
      ⟨plain, ⟨.closed, .empty, rfl⟩, spent, spent.retouched (.inr rfl) .empty⟩
    constructor
    · rw [received]
    · intro later
      rw [received]
      exact (touched.run later).1.facade
    · intro later
      rw [received]
      exact (touched.run later).2.2.trans (touched.run later).2.1.symm

/-- A call that is cancelled drops its handler when it is polled. -/
theorem moveTask?_of_cancelled (cancelled : s.isCancelled = true) {wait : Wait Req S}
    (waiting : s.task = .waiting wait) (now : Nat) (signals : Nat → Signal) :
    s.moveTask? now signals = some (s.withTask .gone, []) := by
  rw [moveTask?_of_asleep cancelled (by rw [waiting]; rfl), waiting]
  rfl

/-- What becomes of a part that arrives behind the end of the request. -/
structure Trailing (s : Serving σ P Req Resp S) (part : RequestPart P) : Prop where
  unchanged : ∀ decoded, part.tryMap s.method.requests.decode = .ok decoded →
    s.receive part = (s, [])
  ignored_iff : s.Ignores part ↔
    (∃ decoded, part.tryMap s.method.requests.decode = .ok decoded) ∨ s.isCancelled = true
  /-- Otherwise it ends the call under the handler, which is dropped when it is polled next. -/
  ends : ∀ e, part.tryMap s.method.requests.decode = .error e → s.isCancelled = false →
    (s.receive part).2 =
        s.call.greeting ++ [.finish e.toStatus s.call.context.trailers] ∧
      (s.receive part).1.isCancelled = true ∧
      ∀ now signals wait, s.task = .waiting wait →
        (s.receive part).1.moveTask? now signals = some ((s.receive part).1.withTask .gone, [])

/-- Behind the end of a request, a part is ignored exactly if it can be decoded or the call is over.
In any other case it ends the call, which its handler was serving. -/
theorem trailing (method : Method σ P Req Resp) (plain : method.chain = .empty)
    (handler : Handler σ Req Resp S) (compression : Bool) (path : String) (shared : σ)
    (before : List (Move σ P Req Resp))
    (running : ((fresh method handler compression path shared).run before).call.inbound = .running)
    (part : RequestPart P) :
    ((fresh method handler compression path shared).run before).Trailing part := by
  have condition : ((fresh method handler compression path shared).run before).call.Condition := by
    rw [call_run]
    exact (Call.condition_fresh path shared).run plain _
  have serves : ((fresh method handler compression path shared).run before).method = method :=
    method_run _ before
  generalize (fresh method handler compression path shared).run before = s
    at running condition serves ⊢
  have plain : s.method.chain = .empty := serves ▸ plain
  have unchanged : ∀ decoded, part.tryMap s.method.requests.decode = .ok decoded →
      s.receive part = (s, []) := by
    intro decoded decodes
    unfold receive
    rw [Call.receive_of_decodes plain (.inl running) decodes]
    rfl
  have ends : ∀ e, part.tryMap s.method.requests.decode = .error e → s.isCancelled = false →
      s.receive part =
        ({ s with call := (s.call.retouched .closed s.call.context.trailers).concluded },
          s.call.greeting ++ [.finish e.toStatus s.call.context.trailers]) := by
    intro e unreadable going
    cases condition with
    | going flows _ =>
      unfold receive
      rw [flows.receive plain (.inl running) unreadable, settle_handing]
    | ended shut cancelled => cases going.symm.trans cancelled
  refine ⟨unchanged, ⟨fun ignores => ?_, ?_⟩, fun e unreadable going => ?_⟩
  · cases decodes : part.tryMap s.method.requests.decode with
    | ok decoded => exact .inl ⟨decoded, rfl⟩
    | error e =>
      refine .inr (eq_true_of_ne_false fun going => ?_)
      have nothing := ignores.silent
      rw [ends e decodes going] at nothing
      simp at nothing
  · rintro (⟨decoded, decodes⟩ | cancelled)
    · exact .of_unchanged (unchanged decoded decodes)
    · exact ignores_of_spent plain ⟨condition.cancelled_iff.mp cancelled, .inl running⟩ part
  · have ended := ends e unreadable going
    have cancelled : (s.receive part).1.isCancelled = true := by
      rw [ended]
      rfl
    have task : (s.receive part).1.task = s.task := by rw [ended]
    refine ⟨?_, cancelled, fun now signals wait waiting => ?_⟩
    · rw [ended]
    · exact moveTask?_of_cancelled cancelled (task.trans waiting) now signals

end Serving

namespace Patient

def unary : Method Unit (Option String) String String where
  shape := .unary
  requests := .optional
  responses := .optional

/-- Waits until it is cancelled. -/
def handler : Handler Unit String String Unit where
  start _ _ := ()
  wish _ := .awaitCancelled ()

def served : Serving Unit (Option String) String String Unit :=
  .fresh unary handler false "/s.S/Do" ()

def going : Move Unit (Option String) String String := .task 0 fun _ => .waiting

/-- The request is complete, and the handler waits. -/
def before : List (Move Unit (Option String) String String) :=
  [.receive (.headers .empty), .receive (.message (some "hi") {}), .receive .finish,
    going, going, going]

def after : Serving Unit (Option String) String String Unit := served.run before

/-- Another message changes nothing. -/
theorem ignores_late_message :
    unary.chain = .empty ∧ after.call.inbound = .running ∧ after.isCancelled = false ∧
      after.receive (.message (some "late") {}) = (after, []) ∧
      after.Ignores (.message (some "late") {}) := by
  have running : after.call.inbound = .running := rfl
  have trailing : after.Trailing (.message (some "late") {}) :=
    Serving.trailing unary rfl handler false "/s.S/Do" () before running (.message (some "late") {})
  exact ⟨rfl, running, rfl, trailing.unchanged _ rfl, trailing.ignored_iff.mpr (.inl ⟨_, rfl⟩)⟩

/-- A message that cannot be decoded ends the call, and the handler is dropped. -/
theorem ended_by_garbage :
    unary.chain = .empty ∧ after.call.inbound = .running ∧ after.isCancelled = false ∧
      after.outputs [.receive (.message none {})] =
        [.headers .empty, .finish ⟨.internal, some "codec error: no text"⟩ .empty] ∧
      (after.run [.receive (.message none {})]).isCancelled = true ∧
      (after.run [going]).task = .waiting (.cancellation ()) ∧
      (after.run [.receive (.message none {}), going]).task = .gone ∧
      ¬after.Ignores (.message none {}) := by
  refine ⟨rfl, rfl, rfl, rfl, rfl, rfl, rfl, fun ignores => ?_⟩
  cases ignores.silent

end Patient

end RemoteCall.Server
