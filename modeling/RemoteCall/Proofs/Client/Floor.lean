import RemoteCall.Proofs.Client.Steps
import RemoteCall.Proofs.Routine

/-!
# What one step can do to a client call

What overlaps at a call is its start, its events and the polls of its response stream. Each step of
theirs is a `Floor.Step`, or writes an ending to the status. What holds of all these steps, or of a
routine as soon as it holds of its parts, holds of the operations (`Operation.covers_steps`). The
two routines that bring an ending to the call are apart in that: it reaches the response first, and
the status later.
-/

namespace RemoteCall.Client

variable {σ P Req Resp : Type}

/-- What may be begun at a call. -/
inductive Operation (P Req : Type) where
  /-- The start, with the answer of the transport and the request of a call that sends one. -/
  | start (invocation : Result Unit) (request : Option Req)
  | event (event : Event P Req)
  /-- One poll for the next message. -/
  | pull

/-- An operation, step by step. -/
def Operation.steps (setup : Setup σ P Req Resp) : Operation P Req → Steps.On σ P Resp Yield
  | start invocation request => do
    Steps.start setup invocation request
    return .nothing
  | event e => e.steps setup
  | pull => do
    .act Floor.poll
    return .nothing

/-- Operations that overlap at a call. -/
abbrev Overlap (σ P Req Resp : Type) : Type := Crowd (Operation P Req) (Floor σ P Resp) Yield

namespace Overlap

/-- Nothing was begun at the call. -/
def fresh (setup : Setup σ P Req Resp) (shared : σ) : Overlap σ P Req Resp :=
  { state := { call := .fresh setup.shape shared } }

/-- What overlapping operations have done to a call. -/
def run (setup : Setup σ P Req Resp) (shared : σ) (turns : List (Crowd.Turn (Operation P Req))) :
    Overlap σ P Req Resp :=
  (fresh setup shared).after (Operation.steps setup) turns

end Overlap

/-- Where a step is done. -/
inductive Place where
  /-- At any moment. -/
  | anywhere
  /-- Where an ending is brought to the response. -/
  | ending

/-- What one step can do that writes nothing to the status, and where. -/
inductive Floor.Step : Place → Floor σ P Resp → Floor σ P Resp → Prop where
  | look (floor : Floor σ P Resp) : Step .anywhere floor floor
  | cancel (floor : Floor σ P Resp) : Step .anywhere floor (floor.ask .cancel)
  | hand (encoded : RequestPart P) (floor : Floor σ P Resp) :
      Step .anywhere floor
        ((floor.mapCall fun call => { call with sent := call.sent + 1 }).ask (.send encoded))
  | allow (part : ResponsePart Resp) (floor : Floor σ P Resp) :
      Step .anywhere floor (floor.mapCall fun call => (call.allow part).2)
  | terminate (floor : Floor σ P Resp) :
      Step .anywhere floor (floor.mapCall fun call => { call with terminated := true })
  | close (closed : Bool) (floor : Floor σ P Resp) :
      Step .anywhere floor (floor.mapCall fun call => { call with closed })
  | note (update : σ → σ) (floor : Floor σ P Resp) :
      Step .anywhere floor (floor.mapCall fun call => { call with shared := update call.shared })
  | lock (sending : Bool) (floor : Floor σ P Resp) : Step .anywhere floor (floor.setSending sending)
  | poll (floor : Floor σ P Resp) : Step .anywhere floor floor.poll
  | settleInitial (value : Result Metadata) (floor : Floor σ P Resp) :
      Step .anywhere floor (floor.mapAccumulator (·.settleInitial value))
  | settleTrailing (value : Result Metadata) (floor : Floor σ P Resp) :
      Step .anywhere floor (floor.mapAccumulator (·.settleTrailing value))
  | violate (e : CallError) (floor : Floor σ P Resp) :
      Step .anywhere floor (floor.mapAccumulator (·.violate e))
  | offer (m : Resp) (flags : MessageFlags) (floor : Floor σ P Resp) :
      Step .anywhere floor
        ((floor.mapAccumulator fun a => (a.offer m).2).log (.part (.message m flags)))
  | failResponse (e : CallError) (floor : Floor σ P Resp) :
      Step .ending floor ((floor.mapAccumulator (·.failResponse e)).log (.failure e))
  | finishMessages (status : Status) (trailers : Metadata) (floor : Floor σ P Resp) :
      Step .ending floor
        ((floor.mapAccumulator fun a => (a.finishMessages (.finish status trailers)).2).log
          (.part (.finish status trailers)))

namespace Steps

open Routine

variable {holds : (α : Type) → On σ P Resp α → Prop}

section Covers

variable (covers : Covers (Floor.Step .anywhere) holds)

include covers

section Ending

variable (ending : Covers (Floor.Step .ending) holds)
  (concludes : ∀ ending, holds Unit (conclude ending))

include ending concludes

theorem covers_handleError (e : CallError) : holds Unit (handleError e) :=
  covers.bind (ending.act (.failResponse e)) fun _ =>
    covers.bind (covers.act (.settleInitial _)) fun _ =>
      covers.bind (covers.act (.settleTrailing _)) fun _ => concludes _

theorem covers_finish (status : Status) (trailers : Metadata) :
    holds Unit (finish status trailers) := by
  refine covers.bind (covers.act (.settleTrailing _)) fun _ =>
    covers.bind (covers.act (.settleInitial _)) fun _ =>
      covers.bind (ending.atomically (.finishMessages status trailers)) fun missing => ?_
  cases missing with
  | false => exact concludes _
  | true =>
    show holds Unit (lacking status trailers)
    unfold lacking
    split <;> exact covers.bind (ending.act (.failResponse _)) fun _ => concludes _

end Ending

theorem covers_abandon : holds Unit abandon := by
  refine covers.bind (covers.atomically .terminate) fun gone => ?_
  cases gone with
  | true => exact covers.value ()
  | false => exact covers.act .cancel

variable (handles : ∀ e, holds Unit (handleError e))

include handles

theorem covers_accumulate (finishes : ∀ status trailers, holds Unit (finish status trailers))
    (part : ResponsePart Resp) : holds (List Receipt) (accumulate part) := by
  have accepts : holds Bool (accept part) := by
    cases part with
    | headers m => exact covers.bind (covers.act (.settleInitial _)) fun _ => covers.value _
    | message m flags =>
      refine covers.bind (covers.atomically (.offer m flags)) fun refused => ?_
      cases refused with
      | false => exact covers.value _
      | true =>
        exact covers.bind (covers.act (.violate _)) fun _ =>
          covers.bind (handles _) fun _ => covers.value _
    | finish status trailers => exact covers.bind (finishes status trailers) fun _ => covers.value _
  refine covers.bind accepts fun violated => ?_
  cases violated with
  | false => exact covers.value _
  | true => exact covers.bind (covers_abandon covers) fun _ => covers.value _

/-- What made it through the chain. -/
theorem covers_edges (finishes : ∀ status trailers, holds Unit (finish status trailers))
    (setup : Setup σ P Req Resp) (arrival : Arrival (ResponsePart Resp)) :
    holds (List Receipt) ((edges setup).arrive arrival) := by
  have all : ∀ admitted, holds (List Receipt) (forEach accumulate admitted) := by
    intro admitted
    induction admitted with
    | nil => exact covers.value []
    | cons part rest ih => exact covers.andThen (covers_accumulate covers handles finishes part) ih
  cases arrival with
  | failure e => exact covers.bind (handles e) fun _ => covers.value _
  | part part =>
    refine covers.bind (covers.atomically (.allow part)) fun admitted =>
      covers.bind (all admitted) fun receipts => ?_
    split
    · exact covers.bind (covers_abandon covers) fun _ => covers.value _
    · exact covers.value _

end Covers

theorem covers_toTransport (covers : Covers (Floor.Step .anywhere) holds)
    (setup : Setup σ P Req Resp) (part : RequestPart Req) :
    holds (List Receipt) (toTransport setup part) := by
  unfold toTransport
  cases part.tryMap setup.requests.encode with
  | ok encoded => exact covers.atomically (.hand encoded)
  | error e => exact covers.value _

section Chain

variable {setup : Setup σ P Req Resp} (covers : Covers (Floor.Step .anywhere) holds)
  (arrives : ∀ arrival, holds (List Receipt) (arrive setup arrival))
  (sends : ∀ part, holds (List Receipt) (send setup part))
  (handles : ∀ e, holds Unit (handleError e))

include covers

section Batch

include sends

theorem covers_enqueue (parts : List (RequestPart Req)) :
    holds (Result (List Receipt)) (enqueue setup parts) := by
  induction parts with
  | nil => exact covers.value _
  | cons part rest ih =>
    refine covers.bind (covers.single _ id _ .look) fun closed => ?_
    cases closed with
    | true => exact covers.value _
    | false =>
      refine covers.bind (covers.single _ id _ .look) fun gone => ?_
      cases gone with
      | true => exact covers.value _
      | false =>
        exact covers.bind (covers.act (.close _)) fun _ => covers.bind (sends part) fun _ =>
          covers.bind ih fun _ => covers.value _

theorem covers_sendBatch (parts : List (RequestPart Req)) :
    holds (Result (List Receipt)) (sendBatch setup parts) :=
  covers.bind (covers.single _ _ _ (.lock true)) fun _ =>
    covers.bind (covers_enqueue covers sends parts) fun _ =>
      covers.bind (covers.act (.lock false)) fun _ => covers.value _

include handles

theorem covers_start (invocation : Result Unit) (request : Option Req) :
    holds Unit (start setup invocation request) := by
  cases invocation with
  | error e => exact covers.bind (covers.act .terminate) fun _ => handles e
  | ok u => exact covers.bind (covers_sendBatch covers sends _) fun _ => covers.value _

end Batch

include arrives handles

omit covers in
theorem covers_failCall (covers : Covers (Floor.Step .anywhere) holds) (e : CallError) :
    holds Unit (failCall setup e) :=
  covers.bind (arrives (.failure e)) fun _ => handles e

theorem covers_terminate (e : CallError) : holds Bool (terminate setup e) := by
  refine covers.bind (covers.atomically .terminate) fun gone => ?_
  cases gone with
  | true => exact covers.value _
  | false =>
    exact covers.bind (covers_failCall arrives handles covers e) fun _ =>
      covers.bind (covers.act .cancel) fun _ => covers.value _

theorem covers_expire : holds Bool (expire setup) := by
  refine covers.bind (covers.single _ id _ .look) fun status => ?_
  cases status with
  | some status => exact covers.value _
  | none => exact covers_terminate covers arrives handles _

theorem covers_onPart (part : ResponsePart P) : holds Unit (onPart setup part) := by
  unfold onPart
  cases part.tryMap setup.responses.decode with
  | ok decoded => exact covers.bind (arrives (.part decoded)) fun _ => covers.value _
  | error e =>
    exact covers.bind (covers_failCall arrives handles covers e) fun _ => covers_abandon covers

end Chain

end Steps

/-- Whatever holds of the steps that are done anywhere, and of what brings an ending to the call,
holds of every operation. -/
theorem Operation.covers_steps {holds : (α : Type) → Steps.On σ P Resp α → Prop}
    (setup : Setup σ P Req Resp) (covers : Routine.Covers (Floor.Step .anywhere) holds)
    (handles : ∀ e, holds Unit (Steps.handleError e))
    (finishes : ∀ status trailers, holds Unit (Steps.finish status trailers))
    (operation : Operation P Req) : holds Yield (operation.steps setup) := by
  have closes : (Steps.edges setup).Closes (holds (List Receipt)) := covers.closes .note .look
  have edges := Steps.covers_edges covers handles finishes setup
  have transports := Steps.covers_toTransport covers setup
  have sends := Chain.sendSteps_in closes edges setup.path transports setup.chain
  have arrives := Chain.arriveSteps_in closes edges setup.path transports setup.chain
  cases operation with
  | start invocation request =>
    exact covers.bind (Steps.covers_start covers sends handles invocation request) fun _ =>
      covers.value _
  | pull => exact covers.bind (covers.act .poll) fun _ => covers.value _
  | event event =>
    cases event with
    | send parts =>
      exact covers.bind (Steps.covers_sendBatch covers sends parts) fun _ => covers.value _
    | cancel =>
      exact covers.bind (Steps.covers_terminate covers arrives handles _) fun _ => covers.value _
    | expire =>
      exact covers.bind (Steps.covers_expire covers arrives handles) fun _ => covers.value _
    | part part =>
      exact covers.bind (Steps.covers_onPart covers arrives handles part) fun _ => covers.value _
    | error e =>
      exact covers.bind (Steps.covers_failCall arrives handles covers e) fun _ => covers.value _

/-- What every step does, every operation does, step by step. -/
theorem Operation.keeps_steps {R : Floor σ P Resp → Floor σ P Resp → Prop}
    (steps : ∀ place floor floor', Floor.Step place floor floor' → R floor floor')
    (concludes : ∀ ending floor, R floor (floor.conclude ending)) (setup : Setup σ P Req Resp)
    (operation : Operation P Req) :
    (operation.steps setup).Keeps (fun _ => True) R fun _ => True := by
  have covers := fun place => Routine.covers_keeps (steps place)
  have concluding : ∀ ending, (Steps.conclude ending : Steps.On σ P Resp Unit).Keeps
      (fun _ => True) R fun _ => True := fun ending =>
    Routine.keeps_act fun floor _ => concludes ending floor
  exact Operation.covers_steps setup (covers .anywhere)
    (Steps.covers_handleError (covers .anywhere) (covers .ending) concluding)
    (Steps.covers_finish (covers .anywhere) (covers .ending) concluding) operation

namespace Overlap

variable {setup : Setup σ P Req Resp} {shared : σ}

theorem run_append (turns more : List (Crowd.Turn (Operation P Req))) :
    run setup shared (turns ++ more) =
      (run setup shared turns).after (Operation.steps setup) more :=
  Crowd.after_append turns more

/-- What every step does, or several in a row, the operations do from one moment to a later one. -/
theorem keeps_run {R : Floor σ P Resp → Floor σ P Resp → Prop} (refl : ∀ floor, R floor floor)
    (trans : ∀ first second third, R first second → R second third → R first third)
    (steps : ∀ place floor floor', Floor.Step place floor floor' → R floor floor')
    (concludes : ∀ ending floor, R floor (floor.conclude ending))
    (turns later : List (Crowd.Turn (Operation P Req))) :
    R (run setup shared turns).state (run setup shared (turns ++ later)).state := by
  have begins : ∀ (_ : Nat) (operation : Operation P Req), (operation.steps setup).Keeps
      (fun _ => True) R fun _ => True := fun _ =>
    Operation.keeps_steps steps concludes setup
  have after : ∀ {c : Overlap σ P Req Resp} more,
      c.Keep (fun _ => True) R (fun _ _ _ => True) →
        (c.after (Operation.steps setup) more).Keep (fun _ => True) R (fun _ _ _ => True) ∧
          R c.state (c.after (Operation.steps setup) more).state := fun more keep =>
    keep.after begins (fun _ _ _ _ => trivial) (fun floor _ => refl floor) trans more
  have nobody : (fresh setup shared : Overlap σ P Req Resp).Keep (fun _ => True) R
      fun _ _ _ => True := ⟨trivial, fun _ _ _ found => by cases found⟩
  rw [run_append]
  exact (after later (after turns nobody).1).2

/-- What holds at the beginning and is kept by every step holds at every moment. -/
theorem holds_run {I : Floor σ P Resp → Prop}
    (begins : I (fresh setup shared : Overlap σ P Req Resp).state)
    (steps : ∀ place floor floor', Floor.Step place floor floor' → I floor → I floor')
    (concludes : ∀ ending floor, I floor → I (floor.conclude ending))
    (turns : List (Crowd.Turn (Operation P Req))) : I (run setup shared turns).state :=
  keeps_run (R := fun floor floor' => I floor → I floor') (fun _ => id)
    (fun _ _ _ first second now => second (first now)) steps concludes [] turns begins

end Overlap

end RemoteCall.Client
