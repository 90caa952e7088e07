import RemoteCall.Client.Call
import RemoteCall.Proofs.Chain.Trace
import RemoteCall.Proofs.Client.Accumulator
import RemoteCall.Proofs.ResponseOrder

/-!
# The intake of a client call

Behind the chain of a client call stand the order filter and the accumulator, its `Intake`. Only
arrivals reach it: parts and failures that leave the chain, and failures that bypass it. So what a
call reports is a function of its arrivals in order (`Intake.takeAll`), whatever the hooks do to
produce them (`Pass.intake_replay`).
-/

namespace RemoteCall

namespace Client

/-- The order filter and the accumulator of a call. -/
structure Intake (Resp : Type) where
  order : ResponseOrder := .fresh
  accumulator : Accumulator Resp

namespace Intake

variable {Resp : Type}

def take (i : Intake Resp) : Arrival (ResponsePart Resp) → Intake Resp
  | .part part =>
    { order := (i.order.allow part).2
      accumulator := i.accumulator.acceptAll (i.order.allow part).1 }
  | .failure e => { i with accumulator := i.accumulator.fail e }

def takeAll (i : Intake Resp) (arrivals : List (Arrival (ResponsePart Resp))) : Intake Resp :=
  arrivals.foldl take i

@[simp] theorem takeAll_nil (i : Intake Resp) : i.takeAll [] = i := rfl

@[simp] theorem takeAll_cons (i : Intake Resp) (arrival : Arrival (ResponsePart Resp))
    (rest : List (Arrival (ResponsePart Resp))) :
    i.takeAll (arrival :: rest) = (i.take arrival).takeAll rest := rfl

theorem takeAll_append (i : Intake Resp) (first second : List (Arrival (ResponsePart Resp))) :
    i.takeAll (first ++ second) = (i.takeAll first).takeAll second := by
  unfold takeAll
  rw [List.foldl_append]

end Intake

def Call.intake {σ Resp : Type} (call : Call σ Resp) : Intake Resp :=
  ⟨call.order, call.accumulator⟩

namespace Pass

variable {σ P Req Resp : Type}

@[simp] theorem intake_abandon (p : Pass σ P Resp) : p.abandon.call.intake = p.call.intake := by
  unfold abandon
  by_cases h : p.call.terminated = true
  · rw [if_pos h]
  · rw [if_neg h]
    rfl

@[simp] theorem accumulator_abandon (p : Pass σ P Resp) :
    p.abandon.call.accumulator = p.call.accumulator :=
  congrArg Intake.accumulator (intake_abandon p)

@[simp] theorem intake_toTransport (setup : Setup σ P Req Resp) (part : RequestPart Req)
    (p : Pass σ P Resp) : (toTransport setup part p).call.intake = p.call.intake := by
  unfold toTransport
  cases part.tryMap setup.requests.encode <;> rfl

theorem intake_accumulate (p : Pass σ P Resp) (part : ResponsePart Resp) :
    (p.accumulate part).call.intake =
      { p.call.intake with accumulator := (p.call.accumulator.accept part).1 } := by
  unfold accumulate
  by_cases h : (p.call.accumulator.accept part).2 = true
  · simp only [h, if_true, intake_abandon]
    rfl
  · simp only [h]
    rfl

theorem intake_foldl_accumulate (admitted : List (ResponsePart Resp)) (p : Pass σ P Resp) :
    (admitted.foldl accumulate p).call.intake =
      { p.call.intake with
        accumulator := p.call.accumulator.acceptAll admitted } := by
  induction admitted generalizing p with
  | nil => rfl
  | cons part rest ih =>
    have taken := intake_accumulate p part
    rw [List.foldl_cons, ih, taken]
    have accumulated := congrArg Intake.accumulator taken
    simp only [Call.intake] at accumulated
    rw [accumulated]
    rfl

/-- A part that leaves the chain is taken. -/
theorem intake_deliver (part : ResponsePart Resp) (p : Pass σ P Resp) :
    (deliver part p).call.intake = p.call.intake.take (.part part) := by
  unfold deliver
  by_cases h : (p.call.order.allow part).1.any ResponsePart.isFinish = true
  · simp only [h, if_true, intake_abandon, intake_foldl_accumulate]
    rfl
  · simp only [h, Bool.false_eq_true, if_false, intake_foldl_accumulate]
    rfl

/-- A failure that leaves the chain is taken. -/
theorem intake_failWith (e : CallError) (p : Pass σ P Resp) :
    (failWith e p).call.intake = p.call.intake.take (.failure e) := rfl

/-- Only arrivals reach the intake. -/
theorem intake_act (setup : Setup σ P Req Resp)
    (action : EdgeAction σ (RequestPart Req) (ResponsePart Resp)) (p : Pass σ P Resp) :
    ((edges setup).act action p).call.intake = p.call.intake.takeAll action.arrival?.toList := by
  cases action with
  | transport part => exact intake_toTransport setup part p
  | note update => rfl
  | arrive arrival =>
    cases arrival with
    | part part => exact intake_deliver part p
    | failure e => exact intake_failWith e p

theorem intake_replay (setup : Setup σ P Req Resp)
    (actions : List (EdgeAction σ (RequestPart Req) (ResponsePart Resp))) (p : Pass σ P Resp) :
    ((edges setup).replay actions p).call.intake =
      p.call.intake.takeAll (actions.filterMap EdgeAction.arrival?) := by
  induction actions generalizing p with
  | nil => rfl
  | cons action rest ih =>
    rw [Edges.replay_cons, ih, intake_act, ← Intake.takeAll_append]
    cases h : action.arrival? with
    | none => rw [List.filterMap_cons_none h]; rfl
    | some arrival => rw [List.filterMap_cons_some h]; rfl

/-- What reaches the intake while a part of the application runs through the chain. -/
def sendArrivals (setup : Setup σ P Req Resp) (part : RequestPart Req) (p : Pass σ P Resp) :
    List (Arrival (ResponsePart Resp)) :=
  (setup.chain.sendTrace (edges setup) setup.path part p).filterMap EdgeAction.arrival?

/-- What reaches the intake while an arrival runs through the chain. -/
def chainArrivals (setup : Setup σ P Req Resp) (arrival : Arrival (ResponsePart Resp))
    (p : Pass σ P Resp) : List (Arrival (ResponsePart Resp)) :=
  (setup.chain.arriveTrace (edges setup) setup.path arrival p).filterMap EdgeAction.arrival?

theorem intake_send (setup : Setup σ P Req Resp) (part : RequestPart Req) (p : Pass σ P Resp) :
    (send setup part p).call.intake = p.call.intake.takeAll (sendArrivals setup part p) := by
  unfold send sendArrivals
  rw [← Chain.replay_sendTrace, intake_replay]

theorem intake_receive (setup : Setup σ P Req Resp) (part : ResponsePart Resp)
    (p : Pass σ P Resp) :
    (receive setup part p).call.intake =
      p.call.intake.takeAll (chainArrivals setup (.part part) p) := by
  unfold receive chainArrivals Chain.receive
  rw [← Chain.replay_arriveTrace, intake_replay]

theorem intake_fail (setup : Setup σ P Req Resp) (e : CallError) (p : Pass σ P Resp) :
    (fail setup e p).call.intake = p.call.intake.takeAll (chainArrivals setup (.failure e) p) := by
  unfold fail chainArrivals Chain.fail
  rw [← Chain.replay_arriveTrace, intake_replay]

/-- What reaches the intake while parts are enqueued. -/
def enqueueArrivals (setup : Setup σ P Req Resp) :
    List (RequestPart Req) → Pass σ P Resp → List (Arrival (ResponsePart Resp))
  | [], _ => []
  | part :: rest, p =>
    if p.call.closed || p.call.terminated then []
    else
      let p := { p with call := { p.call with closed := part.kind == .finish } }
      sendArrivals setup part p ++ enqueueArrivals setup rest (send setup part p)

theorem intake_enqueue (setup : Setup σ P Req Resp) (parts : List (RequestPart Req))
    (p : Pass σ P Resp) :
    (enqueue setup parts p).2.call.intake =
      p.call.intake.takeAll (enqueueArrivals setup parts p) := by
  induction parts generalizing p with
  | nil => rfl
  | cons part rest ih =>
    unfold enqueue enqueueArrivals
    by_cases hclosed : p.call.closed = true
    · simp [hclosed]
    · by_cases hterminated : p.call.terminated = true
      · simp [hclosed, hterminated]
      · simp only [hclosed, hterminated, Bool.or_self, Bool.false_eq_true, if_false]
        rw [ih, intake_send, Intake.takeAll_append]
        rfl

end Pass

end Client

end RemoteCall
