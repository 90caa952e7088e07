import RemoteCall.Proofs.Acceptance
import RemoteCall.Proofs.Errand
import RemoteCall.Proofs.Server.Emission
import RemoteCall.Proofs.Server.Incidents
import RemoteCall.Proofs.Server.TaskMoves
import RemoteCall.Proofs.Server.Wire

/-!
# When writes complete

The receipts of a write are those of the parts that reach the transport while its message runs
through the chain (`Call.reached`): the staged headers ahead of the first part, whatever hooks make
of both, and empty headers that the order filter puts in; what the filter drops has no receipt
(`Pass.tally_emit`). So a write that is not refused waits for these parts, and completes by how
their acceptances stand, whether the handler writes or somebody else (`Serving.write_completes`).
-/

namespace RemoteCall.Server

variable {σ P Req Resp S : Type}

/-- The encoding of a part for the transport. -/
def Method.encode (method : Method σ P Req Resp) (part : ResponsePart Resp) :
    Result (ResponsePart P) :=
  part.tryMap method.responses.encode

namespace Pass

variable (method : Method σ P Req Resp) {p : Pass σ P Req}

/-! ### What is handed over -/

/-- What the call of a pass has handed over. -/
def tally (p : Pass σ P Req) : Tally (ResponsePart P) := ⟨p.call.sent, p.parts, p.receipts⟩

theorem tally_write (part : ResponsePart Resp) (p : Pass σ P Req) :
    (write method p part).tally = p.tally.hand method.encode part := by
  unfold write Tally.hand Method.encode
  cases part.tryMap method.responses.encode with
  | ok encoded => simp [tally, parts, ServerOp.part?]
  | error e => rfl

theorem tally_foldl_write (admitted : List (ResponsePart Resp)) (p : Pass σ P Req) :
    (admitted.foldl (write method) p).tally = p.tally.handAll method.encode admitted := by
  induction admitted generalizing p with
  | nil => rfl
  | cons part rest ih =>
    rw [List.foldl_cons, ih, tally_write]
    rfl

/-- Parts have passed the filter and were handed over. -/
structure Hands (p : Pass σ P Req) (departed : List (ResponsePart Resp)) (p' : Pass σ P Req) :
    Prop where
  tally : p'.tally = p.tally.handAll method.encode (p.call.order.allowAll departed)
  order : p'.call.order = p.call.order.after departed

variable {method}

theorem Hands.nothing {p' : Pass σ P Req} (sent : p'.call.sent = p.call.sent)
    (parts : p'.parts = p.parts) (receipts : p'.receipts = p.receipts)
    (order : p'.call.order = p.call.order) : Hands method p [] p' where
  tally := by
    show Tally.mk _ _ _ = Tally.mk _ _ _
    rw [sent, parts, receipts]
  order := order

/-- What has handed over the same goes on in the same way. -/
theorem Hands.of_eq {p₀ p' : Pass σ P Req} {departed : List (ResponsePart Resp)}
    (hands : Hands method p departed p') (tally : p.tally = p₀.tally)
    (order : p.call.order = p₀.call.order) : Hands method p₀ departed p' := by
  obtain ⟨handed, passed⟩ := hands
  rw [tally, order] at handed
  rw [order] at passed
  exact ⟨handed, passed⟩

theorem Hands.trans {first second : List (ResponsePart Resp)} {p' p'' : Pass σ P Req}
    (one : Hands method p first p') (two : Hands method p' second p'') :
    Hands method p (first ++ second) p'' where
  tally := by
    rw [two.tally, one.tally, one.order, ResponseOrder.allowAll_append, Tally.handAll_append]
  order := by rw [two.order, one.order, ResponseOrder.after_append]

variable (method)

theorem hands_toTransport (part : ResponsePart Resp) (p : Pass σ P Req) :
    Hands method p [part] (toTransport method part p) := by
  have written := tally_foldl_write method (p.call.order.allow part).1
    { p with call := { p.call with order := (p.call.order.allow part).2 } }
  refine ⟨?_, ?_⟩
  · rw [ResponseOrder.allowAll, ResponseOrder.allowAll, List.append_nil]
    unfold toTransport
    by_cases finish : (p.call.order.allow part).1.any ResponsePart.isFinish = true
    · simp only [finish, if_true]
      exact written
    · simp only [finish, Bool.false_eq_true, if_false]
      exact written
  · obtain ⟨sent, cancelled, same⟩ := call_toTransport method part p
    rw [same]
    rfl

/-- What a hook passes inward meanwhile hands nothing over. -/
theorem hands_onRequestWhileEmitting (part : RequestPart Req) (p : Pass σ P Req) :
    Hands method p [] (onRequestWhileEmitting method part p) := by
  have order := order_advance method.shape.streamsRequests p.call part
  have sent := sent_advance method.shape.streamsRequests p.call part
  unfold onRequestWhileEmitting
  cases advanced : advance method.shape.streamsRequests p.call part with
  | mk call reaction =>
    rw [advanced] at order sent
    cases reaction with
    | ignore => exact .nothing sent rfl rfl order
    | start request => exact .nothing sent (parts_startHandler p request) rfl order
    | reject reason => exact .nothing sent rfl rfl order

/-- Only a part that leaves the chain is handed over. -/
theorem hands_outbound (action : EdgeAction σ (ResponsePart Resp) (RequestPart Req))
    (p : Pass σ P Req) :
    Hands method p action.departure?.toList ((outboundEdges method).act action p) := by
  cases action with
  | transport part => exact hands_toTransport method part p
  | note update => exact .nothing rfl rfl rfl rfl
  | arrive arrival =>
    cases arrival with
    | part part => exact hands_onRequestWhileEmitting method part p
    | failure e =>
      exact .nothing (sent_closeInbound p.call e) rfl rfl (order_closeInbound p.call e)

/-- The parts that leave the chain while one is sent through it. -/
def departures (part : ResponsePart Resp) (p : Pass σ P Req) : List (ResponsePart Resp) :=
  (method.chain.sendTrace (outboundEdges method) p.call.context.path part p).filterMap
    EdgeAction.departure?

theorem hands_send (part : ResponsePart Resp) (p : Pass σ P Req) :
    Hands method p (departures method part p) (send method part p) := by
  have replayed : ∀ (actions : List (EdgeAction σ (ResponsePart Resp) (RequestPart Req)))
      (p : Pass σ P Req), Hands method p (actions.filterMap EdgeAction.departure?)
        ((outboundEdges method).replay actions p) := by
    intro actions
    induction actions with
    | nil => exact fun p => .nothing rfl rfl rfl rfl
    | cons action rest ih =>
      intro p
      have all := (hands_outbound method action p).trans (ih _)
      cases departs : action.departure? with
      | none =>
        rw [List.filterMap_cons_none departs]
        rwa [departs] at all
      | some part =>
        rw [List.filterMap_cons_some departs]
        rwa [departs] at all
  unfold send departures
  rw [← Chain.replay_sendTrace]
  exact replayed _ p

/-- The parts that leave the chain while the staged headers go ahead of a part. -/
def openDepartures (part : ResponsePart Resp) (p : Pass σ P Req) : List (ResponsePart Resp) :=
  if p.call.headersSent then []
  else
    match part with
    | .headers _ => []
    | _ => departures method (.headers p.call.context.responseHeaders) p.opened

theorem hands_openResponse (part : ResponsePart Resp) (p : Pass σ P Req) :
    Hands method p (openDepartures method part p) (openResponse method part p).2 := by
  have sent : Hands method p (departures method (.headers p.call.context.responseHeaders) p.opened)
      (send method (.headers p.call.context.responseHeaders) p.opened) :=
    (hands_send method _ p.opened).of_eq rfl rfl
  unfold openResponse openDepartures
  split
  · exact .nothing rfl rfl rfl rfl
  · cases part with
    | headers m => exact .nothing rfl rfl rfl rfl
    | message a flags => exact sent
    | finish status trailers => exact sent

/-- The parts that leave the chain while one is emitted. -/
def emitDepartures (part : ResponsePart Resp) (p : Pass σ P Req) : List (ResponsePart Resp) :=
  if p.call.ended || p.call.suppressed then []
  else
    let (first, q) := openResponse method part p
    let q := if first.isFinish then q.mapCall fun call => { call with ended := true } else q
    openDepartures method part p ++ departures method first q

/-- A part that is emitted hands over what leaves the chain and passes the filter. -/
theorem hands_emit (part : ResponsePart Resp) (p : Pass σ P Req) :
    Hands method p (emitDepartures method part p) (emit method part p).2 := by
  have opened := hands_openResponse method part p
  unfold emit emitDepartures
  by_cases refused : (p.call.ended || p.call.suppressed) = true
  · simp only [refused, if_true]
    exact .nothing rfl rfl rfl rfl
  · simp only [refused, Bool.false_eq_true, if_false]
    refine opened.trans ((hands_send method _ _).of_eq ?_ ?_)
    · split <;> rfl
    · split <;> rfl

end Pass

/-- The parts that reach the transport while a message is written. -/
def Call.reached (method : Method σ P Req Resp) (transport : Bool) (message : Resp)
    (wish : Compression) (call : Call σ Req) : List (ResponsePart Resp) :=
  call.order.allowAll
    (Pass.emitDepartures method (.message message (call.context.flags transport wish))
      (.start call))

/-- A message that is not refused hands over the parts that reach the transport, and its receipts
are theirs. -/
theorem Call.tally_write {method : Method σ P Req Resp} {transport : Bool} {message : Resp}
    {wish : Compression} {call : Call σ Req} {receipts : List Receipt} {p : Pass σ P Req}
    (written : call.write method transport message wish = (.ok receipts, p)) :
    p.parts = encodings method.encode (call.reached method transport message wish) ∧
      receipts =
        Receipt.ofParts method.encode call.sent (call.reached method transport message wish) := by
  have handed := (Pass.hands_emit method
    (.message message (call.context.flags transport wish)) (.start call)).tally
  rw [Tally.handAll_eq] at handed
  rw [Call.write_eq] at written
  cases emitted : Pass.emit method (.message message (call.context.flags transport wish))
      (.start call) with
  | mk outcome q =>
    rw [emitted] at written handed
    obtain ⟨accepted, rfl⟩ := Prod.mk.inj written
    cases outcome with
    | error e => cases accepted
    | ok u =>
      cases accepted
      exact ⟨congrArg Tally.parts handed, congrArg Tally.receipts handed⟩

/-! ### Waiting -/

namespace Move

/-- How the acceptances stand when an errand may go on. -/
def signals? : Move σ P Req Resp → Option (Nat → Signal)
  | errand signals => some signals
  | _ => none

/-- Whether somebody drops the errands of a name, or starts one. -/
def disturbs (id : String) : Move σ P Req Resp → Bool
  | drop other => other == id
  | engage other => other.isNamed id
  | _ => false

/-- Whether the errands of a name are polled. -/
def polls (id : String) : Move σ P Req Resp → Bool
  | poll other => other == id
  | _ => false

/-- Whether a move is about errands. -/
def isErrand : Move σ P Req Resp → Bool
  | engage _ => true
  | poll _ => true
  | drop _ => true
  | errand _ => true
  | _ => false

end Move

namespace Serving

variable {s : Serving σ P Req Resp S} {id : String} {receipts : List Receipt} {begun : Bool}

/-- The errands and the answers they have left. -/
def books (s : Serving σ P Req Resp S) : List (Errand (Job Resp)) × Named Answer :=
  (s.errands, s.finished)

theorem books_resume (r : Resumption S × Call σ Req) : (s.resume r).1.books = s.books := by
  unfold resume
  cases r.1 <;> rfl

theorem books_grant (now : Nat) (wish : Wish σ Req Resp S) :
    (s.grant now wish).1.books = s.books := by
  cases wish with
  | pull go =>
    simp only [grant]
    split <;> rfl
  | write message compression go =>
    simp only [grant]
    split <;> rfl
  | finish result =>
    cases result with
    | error e => rfl
    | ok response =>
      cases response with
      | none => rfl
      | some response =>
        simp only [grant]
        split <;> rfl
  | _ => rfl

theorem books_task (now : Nat) (signals : Nat → Signal) :
    ((s.moveTask? now signals).getD (s, [])).1.books = s.books := by
  unfold moveTask?
  cases s.task with
  | absent => rfl
  | gone => rfl
  | spawned request =>
    simp only
    split <;> rfl
  | awake state => exact books_grant now _
  | checking wait =>
    simp only
    split
    · exact books_resume _
    · rfl
  | waiting wait =>
    simp only
    split
    · rfl
    · cases wait.resume? now signals s.call with
      | none => rfl
      | some r => exact books_resume r

/-- The errands are left alone by what is not about them. -/
theorem books_perform {move : Move σ P Req Resp} (other : move.isErrand = false) :
    (s.perform move).1.books = s.books := by
  cases move with
  | engage errand => cases other
  | poll id => cases other
  | drop id => cases other
  | errand signals => cases other
  | task now signals => exact books_task now signals
  | tick now =>
    simp only [perform, tick]
    split
    · split <;> rfl
    · rfl
  | dissolve =>
    simp only [perform, dissolve?]
    split <;> rfl
  | _ => rfl

/-- What a move of an errand does: its job goes on, or it is done and leaves its answer. -/
inductive ErrandMoves (s : Serving σ P Req Resp S) (signals : Nat → Signal) :
    Serving σ P Req Resp S → Prop where
  | rest : ErrandMoves s signals s
  | goesOn {before behind : List (Errand (Job Resp))} {errand : Errand (Job Resp)}
      {job : Job Resp} {p : Pass σ P Req} {s' : Serving σ P Req Resp S}
      (here : s.errands = before ++ errand :: behind)
      (moved : s.moveJob? signals errand.job = some (.goesOn job, p))
      (errands : s'.errands = before ++ { errand with job } :: behind)
      (finished : s'.finished = s.finished) : ErrandMoves s signals s'
  | done {before behind : List (Errand (Job Resp))} {errand : Errand (Job Resp)}
      {answer : Answer} {p : Pass σ P Req} {s' : Serving σ P Req Resp S}
      (here : s.errands = before ++ errand :: behind)
      (moved : s.moveJob? signals errand.job = some (.done answer, p))
      (errands : s'.errands = before ++ behind)
      (finished : s'.finished = s.finished ++ (errand.id.map fun id => (id, answer)).toList) :
      ErrandMoves s signals s'

theorem errandMoves (s : Serving σ P Req Resp S) (signals : Nat → Signal) :
    s.ErrandMoves signals (s.perform (.errand signals)).1 := by
  simp only [perform, moveErrand?]
  cases found : Errand.next? (s.moveJob? signals) s.errands with
  | none => exact .rest
  | some next =>
    obtain ⟨before, errand, ⟨turn, p⟩, behind⟩ := next
    obtain ⟨here, went⟩ := eq_append_of_pickFirst? found
    obtain ⟨-, moved⟩ := Option.ite_none_right_eq_some.mp went
    cases turn with
    | goesOn job => exact .goesOn here moved rfl rfl
    | done answer =>
      refine .done here moved rfl ?_
      obtain ⟨id, begun, job⟩ := errand
      cases id with
      | none => exact (List.append_nil _).symm
      | some id => rfl

/-- How a move moves a job, if it lets one go on. -/
def mover? (s : Serving σ P Req Resp S) :
    Move σ P Req Resp → Option (Job Resp → Option (Turn (Job Resp) Answer))
  | .errand signals => some fun job => (s.moveJob? signals job).map Prod.fst
  | _ => none

/-- What a move makes of the errands of a name. -/
abbrev Progress (s : Serving σ P Req Resp S) (id : String) (move : Move σ P Req Resp)
    (s' : Serving σ P Req Resp S) : Prop :=
  Errand.Progress id (move.polls id) (s.mover? move) s.errands s.finished s'.errands s'.finished

theorem progress_errand (s : Serving σ P Req Resp S) (id : String) (signals : Nat → Signal) :
    s.Progress id (.errand signals) (s.perform (.errand signals)).1 := by
  have moves := s.errandMoves signals
  generalize (s.perform (.errand signals)).1 = s' at moves
  cases moves with
  | rest => exact .stays rfl rfl rfl
  | @goesOn before behind errand job p s' here moved errands finished =>
    have kept : ({ errand with job } : Errand (Job Resp)).isNamed id = errand.isNamed id := rfl
    by_cases named : errand.isNamed id = true
    · have was : Errand.under s.errands id =
          Errand.under before id ++ errand :: Errand.under behind id := by
        rw [here, Errand.under_append, Errand.under_cons, if_pos named]
      exact .goesOn (Option.mem_some_self _) was (by rw [moved]; rfl)
    · refine .stays rfl ?_ (by rw [finished])
      rw [here, errands, Errand.under_append, Errand.under_cons, kept, if_neg named,
        Errand.under_append, Errand.under_cons, if_neg named]
  | @done before behind errand answer p s' here moved errands finished =>
    have answered := Errand.answers_concat id s.finished errand answer
    rw [← finished] at answered
    by_cases named : errand.isNamed id = true
    · have was : Errand.under s.errands id =
          Errand.under before id ++ errand :: Errand.under behind id := by
        rw [here, Errand.under_append, Errand.under_cons, if_pos named]
      rw [if_pos named] at answered
      refine .done (Option.mem_some_self _) was (by rw [moved]; rfl) ?_ answered
      rw [errands, Errand.under_append]
    · rw [if_neg named, List.append_nil] at answered
      refine .stays rfl ?_ answered
      rw [here, errands, Errand.under_append, Errand.under_append, Errand.under_cons,
        if_neg named]

/-- What a move does to the errands of a name, unless somebody disturbs them. -/
theorem progress_perform (s : Serving σ P Req Resp S) {id : String} {move : Move σ P Req Resp}
    (undisturbed : move.disturbs id = false) : s.Progress id move (s.perform move).1 := by
  cases about : move.isErrand with
  | false =>
    obtain ⟨errands, finished⟩ := Prod.mk.inj (s.books_perform about)
    refine .stays ?_ (by rw [errands]) (by rw [finished])
    cases move with
    | poll other => cases about
    | _ => rfl
  | true =>
    cases move with
    | errand signals => exact progress_errand s id signals
    | engage errand =>
      refine .stays rfl ?_ rfl
      show Errand.under (s.errands ++ [errand]) id = _
      rw [Errand.under_append, Errand.under_cons, show errand.isNamed id = false from undisturbed]
      exact List.append_nil _
    | drop other =>
      have differ : other ≠ id := beq_eq_false_iff_ne.mp undisturbed
      exact .stays rfl (Errand.under_erase_of_ne differ s.errands) rfl
    | poll other =>
      by_cases this : other = id
      · subst this
        exact .polled (beq_self_eq_true other) (Errand.under_poll_self s.errands other) rfl
      · exact .stays (beq_false_of_ne this) (Errand.under_poll_of_ne this s.errands) rfl
    | _ => cases about

/-- An errand that waits is kept as a wait until it has told its result, and then tells nothing
more. -/
theorem waits_perform (id : String) (receipts : List Receipt) (had : Named Answer) :
    Receipt.Waits receipts
      (fun (s : Serving σ P Req Resp S) (move : Move σ P Req Resp) => (s.perform move).1)
      (·.disturbs id) (·.polls id) Move.signals?
      (fun begun s => Errand.Pends s.errands id (.accept (.ok receipts)) begun ∧
        Errand.answers s.finished id = Errand.answers had id)
      (fun result s => Errand.Completed s.errands had s.finished id (.written result)) := by
  refine Errand.waits mover? (fun s move undisturbed =>
    progress_perform s undisturbed) (fun s move f moves => ?_) had
  cases move with
  | errand signals =>
    cases moves
    refine ⟨signals, rfl, ?_⟩
    exact Option.map_map ..
  | _ => cases moves

/-- Where nothing can move, no errand can. -/
theorem next?_of_rest {signals : Nat → Signal} (rest : s.moveErrand? signals = none) :
    Errand.next? (s.moveJob? signals) s.errands = none := by
  unfold moveErrand? at rest
  cases found : Errand.next? (s.moveJob? signals) s.errands with
  | none => rfl
  | some next =>
    obtain ⟨before, errand, ⟨turn, p⟩, behind⟩ := next
    rw [found] at rest
    cases turn <;> cases rest

/-- How a message that is not refused is written: what it hands over, and when the write
completes. -/
structure WriteCompletes (s : Serving σ P Req Resp S) (message : Resp) (wish : Compression)
    (receipts : List Receipt) (p : Pass σ P Req) : Prop where
  /-- The acceptances to wait for are those of the parts that reach the transport. Such a part is
  handed over and has a number, or has no encoding and fails for that. -/
  reached : receipts = Receipt.ofParts s.method.encode s.call.sent
    (s.call.reached s.method s.compression message wish)
  handed : p.parts = encodings s.method.encode
    (s.call.reached s.method s.compression message wish)
  /-- Somebody's errand, or the handler, writes the message and then waits. -/
  written : (∀ signals, s.moveJob? signals (.write message wish) =
      some (.goesOn (.accept (.ok receipts)), p)) ∧
    (∀ now go, s.grant now (.write message wish go) =
      ((s.settle p).1.withTask (.checking (.receipts receipts go)), (s.settle p).2)) ∧
    (wish = .deferred → ∀ now, s.grant now (.finish (.ok (some message))) =
      ((s.settle p).1.withTask (.checking (.response receipts)), (s.settle p).2))
  /-- Whenever the errand is polled, it is done with what the acceptances then say, or waits. -/
  polled : ∀ (s' : Serving σ P Req Resp S) signals, ∃ answer?,
    Receipt.Tells signals receipts answer? ∧
      s'.moveJob? signals (.accept (.ok receipts)) =
        answer?.map fun result => (.done (.written result), .start s'.call)
  /-- So is the handler, also if it waits to return the message. -/
  resumed : ∀ now signals (call : Call σ Req), ∃ answer?,
    Receipt.Tells signals receipts answer? ∧
      (∀ go : Result Unit → S, (Wait.receipts receipts go).resume? now signals call =
        answer?.map fun result => (.state (go result), call)) ∧
      (Wait.response receipts : Wait Req S).resume? now signals call =
        answer?.map fun result => (.returned result, call)
  /-- Whatever is done meanwhile, an errand that is done has told what its acceptances say. One that
  was polled and is not done has to wait, if nothing can move. -/
  run : ∀ (s' : Serving σ P Req Resp S) id begun,
    Errand.Pends s'.errands id (.accept (.ok receipts)) begun →
    ∀ moves : List (Move σ P Req Resp), (∀ move ∈ moves, move.disturbs id = false) →
      ∀ signals, (moves.filterMap Move.signals? ++ [signals]).Pairwise Signal.GoesOn →
        (∃ result, Errand.Completed (s'.run moves).errands s'.finished (s'.run moves).finished id
            (.written result) ∧ Receipt.Tells signals receipts (some result)) ∨
        Errand.Pends (s'.run moves).errands id (.accept (.ok receipts))
            (begun || moves.any (·.polls id)) ∧
          Errand.answers (s'.run moves).finished id = Errand.answers s'.finished id ∧
          ((begun || moves.any (·.polls id)) = true →
            (s'.run moves).moveErrand? signals = none → Receipt.Tells signals receipts none)
  /-- Dropping the errand leaves the call as it is, and hands nothing to the transport. -/
  dropped : ∀ (s' : Serving σ P Req Resp S) id,
    s'.perform (.drop id) = ({ s' with errands := Errand.erase s'.errands id }, [])

/-- A write that is not refused completes by the acceptances of the parts that reach the
transport. -/
theorem write_completes {message : Resp} {wish : Compression} {p : Pass σ P Req}
    (written : s.call.write s.method s.compression message wish = (.ok receipts, p)) :
    s.WriteCompletes message wish receipts p where
  reached := (Call.tally_write written).2
  handed := (Call.tally_write written).1
  written := by
    refine ⟨fun _ => ?_, fun _ _ => grant_write written, ?_⟩
    · simp only [moveJob?, written]
    · rintro rfl now
      exact grant_respond written
  polled s' signals :=
    ⟨_, Receipt.tells_awaitAll signals receipts, rfl⟩
  resumed now signals call :=
    ⟨_, Receipt.tells_awaitAll signals receipts, fun _ => rfl, rfl⟩
  run s' id begun pends moves undisturbed signals goesOn := by
    rcases (waits_perform id receipts s'.finished).run undisturbed goesOn ⟨pends, rfl⟩ with
      ⟨still, answers⟩ | ⟨result, done, tells⟩
    · refine .inr ⟨still, answers, fun polled quiet => ?_⟩
      have tells := Receipt.tells_awaitAll signals receipts
      have stuck := Errand.Pends.stuck (polled ▸ still) (next?_of_rest quiet)
      rwa [Option.map_eq_none_iff.mp stuck] at tells
    · exact .inl ⟨result, done, tells⟩
  dropped _ _ := rfl

end Serving

end RemoteCall.Server
