import RemoteCall.Proofs.Acceptance
import RemoteCall.Proofs.Client.Errands

/-!
# When sends complete

The receipts of a send are those of the parts that reach the transport while its batch runs through
the chain (`Pass.reached`): hooks may drop parts, multiply them or make up others, and each one that
leaves the chain is handed over and counted, or fails because it has no encoding
(`Pass.tally_enqueue`). So a send that is not refused waits for these parts, and whatever else
happens meanwhile, it completes by how their acceptances stand (`Active.send_completes`).
-/

namespace RemoteCall.Client

variable {σ P Req Resp : Type}

/-- The encoding of a part for the transport. -/
def Setup.encode (setup : Setup σ P Req Resp) (part : RequestPart Req) : Result (RequestPart P) :=
  part.tryMap setup.requests.encode

namespace Pass

variable {setup : Setup σ P Req Resp} {p : Pass σ P Resp}

/-! ### What is handed over -/

/-- What the call of a pass has handed over. -/
def tally (p : Pass σ P Resp) : Tally (RequestPart P) :=
  ⟨p.call.sent, p.ops.filterMap TransportOp.part?, p.receipts⟩

theorem tally_toTransport (part : RequestPart Req) (p : Pass σ P Resp) :
    (toTransport setup part p).tally = p.tally.hand setup.encode part := by
  unfold toTransport Tally.hand Setup.encode
  cases part.tryMap setup.requests.encode with
  | ok encoded => simp [tally, TransportOp.part?]
  | error e => rfl

/-- Giving up on the transport hands nothing over. -/
theorem tally_abandon (p : Pass σ P Resp) : p.abandon.tally = p.tally := by
  unfold abandon
  split
  · rfl
  · simp [tally, TransportOp.part?]

theorem tally_accumulate (part : ResponsePart Resp) (p : Pass σ P Resp) :
    (p.accumulate part).tally = p.tally := by
  unfold accumulate
  by_cases violated : (p.call.accumulator.accept part).2 = true
  · simp only [violated, if_true]
    exact tally_abandon _
  · simp only [violated]
    rfl

theorem tally_foldl_accumulate (parts : List (ResponsePart Resp)) (p : Pass σ P Resp) :
    (parts.foldl accumulate p).tally = p.tally := by
  induction parts generalizing p with
  | nil => rfl
  | cons part rest ih => exact (ih _).trans (tally_accumulate part p)

/-- What arrives hands nothing over. -/
theorem tally_deliver (part : ResponsePart Resp) (p : Pass σ P Resp) :
    (deliver part p).tally = p.tally := by
  have taken := tally_foldl_accumulate (p.call.order.allow part).1
    { p with call := { p.call with order := (p.call.order.allow part).2 } }
  unfold deliver
  by_cases finish : (p.call.order.allow part).1.any ResponsePart.isFinish = true
  · simp only [finish, if_true]
    exact (tally_abandon _).trans taken
  · simp only [finish, Bool.false_eq_true, if_false]
    exact taken

/-- Only a part that leaves the chain is handed over. -/
theorem tally_act (action : EdgeAction σ (RequestPart Req) (ResponsePart Resp))
    (p : Pass σ P Resp) :
    ((edges setup).act action p).tally =
      p.tally.handAll setup.encode action.departure?.toList := by
  cases action with
  | transport part => exact tally_toTransport part p
  | note update => rfl
  | arrive arrival =>
    cases arrival with
    | part part => exact tally_deliver part p
    | failure e => rfl

theorem tally_replay (actions : List (EdgeAction σ (RequestPart Req) (ResponsePart Resp)))
    (p : Pass σ P Resp) :
    ((edges setup).replay actions p).tally =
      p.tally.handAll setup.encode (actions.filterMap EdgeAction.departure?) := by
  induction actions generalizing p with
  | nil => rfl
  | cons action rest ih =>
    rw [Edges.replay_cons, ih, tally_act, ← Tally.handAll_append]
    cases departs : action.departure? with
    | none => rw [List.filterMap_cons_none departs]; rfl
    | some part => rw [List.filterMap_cons_some departs]; rfl

/-- The parts that leave the chain while one enters it. -/
def departures (setup : Setup σ P Req Resp) (part : RequestPart Req) (p : Pass σ P Resp) :
    List (RequestPart Req) :=
  (setup.chain.sendTrace (edges setup) setup.path part
    { p with call := { p.call with closed := part.kind == .finish } }).filterMap
      EdgeAction.departure?

/-- The parts that reach the transport while a batch runs through the chain. -/
def reached (setup : Setup σ P Req Resp) :
    List (RequestPart Req) → Pass σ P Resp → List (RequestPart Req)
  | [], _ => []
  | part :: rest, p =>
    match p.refusal? with
    | some _ => []
    | none => departures setup part p ++ reached setup rest (enter setup part p)

theorem tally_enter (part : RequestPart Req) (p : Pass σ P Resp) :
    (enter setup part p).tally = p.tally.handAll setup.encode (departures setup part p) := by
  unfold enter send departures
  rw [← Chain.replay_sendTrace, tally_replay]
  rfl

/-- A batch hands over the parts of it that reach the transport. -/
theorem tally_enqueue (setup : Setup σ P Req Resp) (parts : List (RequestPart Req))
    (p : Pass σ P Resp) :
    (enqueue setup parts p).2.tally = p.tally.handAll setup.encode (reached setup parts p) := by
  induction parts generalizing p with
  | nil => rfl
  | cons part rest ih =>
    cases refused : p.refusal? with
    | some e =>
      rw [(enqueue_of_refusal refused).1, reached, refused]
      rfl
    | none =>
      rw [(enqueue_of_free refused).1, reached, refused, ih, tally_enter, ← Tally.handAll_append]

end Pass

/-- The parts that reach the transport while a batch is sent. -/
def Call.reached (setup : Setup σ P Req Resp) (parts : List (RequestPart Req))
    (call : Call σ Resp) : List (RequestPart Req) :=
  Pass.reached setup parts (.start call)

/-- A batch that is not refused hands over the parts that reach the transport, and its receipts are
theirs. -/
theorem Call.tally_send {setup : Setup σ P Req Resp} {parts : List (RequestPart Req)}
    {call : Call σ Resp} {receipts : List Receipt} {p : Pass σ P Resp}
    (sent : call.send setup parts = (.ok receipts, p)) :
    p.tally = ⟨call.sent + (encodings setup.encode (call.reached setup parts)).length,
        encodings setup.encode (call.reached setup parts), receipts⟩ ∧
      receipts = Receipt.ofParts setup.encode call.sent (call.reached setup parts) := by
  have handed := Pass.tally_enqueue setup parts (.start call : Pass σ P Resp)
  rw [Tally.handAll_eq] at handed
  rw [Call.send_eq, Prod.mk.injEq] at sent
  obtain ⟨accepted, rfl⟩ := sent
  have same : receipts = (Pass.enqueue setup parts (.start call : Pass σ P Resp)).2.receipts := by
    cases enqueued : (Pass.enqueue setup parts (.start call : Pass σ P Resp)).1 with
    | error e =>
      rw [enqueued] at accepted
      cases accepted
    | ok u =>
      rw [enqueued] at accepted
      exact (Except.ok.inj accepted).symm
  have receiptsOf := congrArg Tally.receipts handed
  rw [handed, same]
  exact ⟨by rw [show Pass.receipts _ = _ from receiptsOf]; rfl, receiptsOf⟩

/-! ### Waiting -/

namespace Happening

/-- How the acceptances stand when an errand may go on. -/
def signals? : Happening σ P Req Resp → Option (Nat → Signal)
  | errand signals _ => some signals
  | _ => none

/-- Whether the errands of a name are polled. -/
def polls (id : String) : Happening σ P Req Resp → Bool
  | poll other => other == id
  | _ => false

end Happening

namespace Active

variable {a : Active σ P Req Resp} {id : String} {receipts : List Receipt} {begun : Bool}

/-- How a happening moves a job, if it lets one go on. -/
def mover? (a : Active σ P Req Resp) :
    Happening σ P Req Resp → Option (Job Req → Option (Turn (Job Req) (Answer Resp)))
  | .errand signals cancelSignal =>
    some fun job => (a.moveJob? signals cancelSignal job).map Prod.fst
  | _ => none

theorem Progress.toErrand {happening : Happening σ P Req Resp} {b : Active σ P Req Resp}
    (progress : a.Progress id happening b) :
    Errand.Progress id (happening.polls id) (a.mover? happening) a.errands a.finished b.errands
      b.finished := by
  cases progress with
  | stays unpolled others here answers =>
    refine .stays ?_ here answers
    cases happening with
    | poll other => exact beq_false_of_ne fun same => unpolled (by rw [same])
    | _ => rfl
  | polled here answers => exact .polled (beq_self_eq_true id) here answers
  | goesOn was begun moved call here answers =>
    exact .goesOn (Option.mem_some_self _) was (by rw [moved]; rfl)
  | done was begun moved call here answers =>
    exact .done (Option.mem_some_self _) was (by rw [moved]; rfl) here answers

/-- An errand that waits is kept as a wait until it has told its result, and then tells nothing
more. -/
theorem waits_happen (id : String) (receipts : List Receipt) (had : Named (Answer Resp)) :
    Receipt.Waits receipts
      (fun (a : Active σ P Req Resp) (happening : Happening σ P Req Resp) => (a.happen happening).1)
      (·.disturbs id) (·.polls id) Happening.signals?
      (fun begun a => Errand.Pends a.errands id (.accept (.ok receipts)) begun ∧
        Errand.answers a.finished id = Errand.answers had id)
      (fun result a => Errand.Completed a.errands had a.finished id (.sent result)) := by
  refine Errand.waits mover? (fun a happening undisturbed =>
    (progress_happen a undisturbed).toErrand) (fun a happening f moves => ?_) had
  cases happening with
  | errand signals cancelSignal =>
    cases moves
    refine ⟨signals, rfl, ?_⟩
    exact Option.map_map ..
  | _ => cases moves

/-- An errand that waits leaves nothing behind when it is dropped. -/
theorem happen_drop_of_pends
    (pends : Errand.Pends a.errands id (.accept (.ok receipts)) begun) :
    a.happen (.drop id) = ({ a with errands := Errand.erase a.errands id }, []) := by
  have nothing : leftBehind a.errands id = [] := by
    refine List.filterMap_eq_nil_iff.mpr fun errand member => if_neg fun guarded => ?_
    obtain ⟨⟨named, polled⟩, guarded⟩ := by simpa only [Bool.and_eq_true] using guarded
    have here : errand ∈ Errand.under a.errands id := List.mem_filter.mpr ⟨member, named⟩
    rw [pends] at here
    rw [List.mem_singleton.mp here] at guarded
    cases guarded
  show (a.drop id, []) = _
  rw [drop_eq, nothing, List.append_nil]

/-- How a batch that is not refused is sent: what it hands over, and when the send completes. -/
structure SendCompletes (a : Active σ P Req Resp) (parts : List (RequestPart Req))
    (receipts : List Receipt) (p : Pass σ P Resp) : Prop where
  /-- The acceptances to wait for are those of the parts that reach the transport. Such a part is
  handed over and has a number, or has no encoding and fails for that. -/
  reached : receipts =
    Receipt.ofParts a.setup.encode a.call.sent (a.call.reached a.setup parts)
  handed : p.ops.filterMap TransportOp.part? =
    encodings a.setup.encode (a.call.reached a.setup parts)
  /-- A batch is sent at once, or by an errand, which then waits. -/
  sent : a.enqueue parts = (.ok receipts, a.settle p) ∧
    ∀ signals cancelSignal, a.moveJob? signals cancelSignal (.send parts) =
      some (.goesOn (.accept (.ok receipts)), p)
  /-- Whenever the errand is polled, it is done with what the acceptances then say, or waits. -/
  polled : ∀ (b : Active σ P Req Resp) signals cancelSignal, ∃ answer?,
    Receipt.Tells signals receipts answer? ∧
      b.moveJob? signals cancelSignal (.accept (.ok receipts)) =
        answer?.map fun result => (.done (.sent result), .start b.call)
  /-- Whatever happens meanwhile, an errand that is done has told what its acceptances say. One that
  was polled and is not done has to wait, if nothing can move. -/
  course : ∀ (b : Active σ P Req Resp) id begun,
    Errand.Pends b.errands id (.accept (.ok receipts)) begun →
    ∀ course : List (Happening σ P Req Resp),
      (∀ happening ∈ course, happening.disturbs id = false) →
      ∀ signals, (course.filterMap Happening.signals? ++ [signals]).Pairwise Signal.GoesOn →
        (∃ result, Errand.Completed (b.after course).errands b.finished (b.after course).finished id
            (.sent result) ∧ Receipt.Tells signals receipts (some result)) ∨
        Errand.Pends (b.after course).errands id (.accept (.ok receipts))
            (begun || course.any (·.polls id)) ∧
          (b.after course).answers id = b.answers id ∧
          ((begun || course.any (·.polls id)) = true → ∀ cancelSignal,
            (b.after course).moveErrand? signals cancelSignal = none →
              Receipt.Tells signals receipts none)
  /-- Dropping the errand leaves the call as it is, and asks nothing of the transport. -/
  dropped : ∀ (b : Active σ P Req Resp) id begun,
    Errand.Pends b.errands id (.accept (.ok receipts)) begun →
    b.happen (.drop id) = ({ b with errands := Errand.erase b.errands id }, [])

/-- A send that is not refused completes by the acceptances of the parts that reach the
transport. -/
theorem send_completes {parts : List (RequestPart Req)} {p : Pass σ P Resp}
    (sent : a.call.send a.setup parts = (.ok receipts, p)) : a.SendCompletes parts receipts p where
  reached := (Call.tally_send sent).2
  handed := congrArg Tally.parts (Call.tally_send sent).1
  sent := by
    refine ⟨?_, fun _ _ => ?_⟩
    · simp only [enqueue, sent]
    · simp only [moveJob?, sent]
  polled b signals cancelSignal :=
    ⟨_, Receipt.tells_awaitAll signals receipts, rfl⟩
  course b id begun pends course undisturbed signals goesOn := by
    rcases (waits_happen id receipts b.finished).run undisturbed goesOn ⟨pends, rfl⟩ with
      ⟨still, answers⟩ | ⟨result, done, tells⟩
    · refine .inr ⟨still, answers, fun polled cancelSignal quiet => ?_⟩
      have tells := Receipt.tells_awaitAll signals receipts
      have stuck := Errand.Pends.stuck (polled ▸ still) (next?_of_rest quiet)
      rwa [Option.map_eq_none_iff.mp stuck] at tells
    · exact .inl ⟨result, done, tells⟩
  dropped _ _ _ pends := happen_drop_of_pends pends

end Active

end RemoteCall.Client
