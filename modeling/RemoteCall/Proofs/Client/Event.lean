import RemoteCall.Proofs.Client.Intake

/-!
# Runs of a client call

A client call is driven from outside by `Event`s, in any order: sends, cancellations, the
deadline, and what the transport delivers. Its application polls the response stream at any time
in between. A run is a list of such `Move`s; `Call.run` is the state after it, `Call.arrivals`
what reached the intake on the way, and `Call.glimpses` what the polls showed.
-/

namespace RemoteCall.Client

/-- Something that happens to a call. -/
inductive Event (P Req : Type) where
  /-- A batch of parts is sent. -/
  | send (parts : List (RequestPart Req))
  /-- The call is cancelled, by its owner or through a sender. -/
  | cancel
  /-- The deadline passes. -/
  | expire
  /-- The transport delivers a part. -/
  | part (part : ResponsePart P)
  /-- The transport fails. -/
  | error (e : CallError)

/-- An event, or a poll of the response stream. -/
inductive Move (P Req : Type) where
  | event (event : Event P Req)
  | pull
  | next

/-- What a poll of the response stream shows. -/
inductive Glimpse (Resp : Type) where
  | pulled (answer : Poll (Result (Option Resp)))
  | shown (answer : Poll (Option (Result Resp)))

def Move.isPoll {P Req : Type} : Move P Req → Bool
  | .event _ => false
  | _ => true

namespace Call

variable {σ P Req Resp : Type}

/-- What reaches the intake when the call is terminated. -/
def terminateArrivals (setup : Setup σ P Req Resp) (e : CallError) (call : Call σ Resp) :
    List (Arrival (ResponsePart Resp)) :=
  if call.terminated then []
  else
    Pass.chainArrivals setup (.failure e) (.start { call with terminated := true }) ++
      [.failure e]

theorem intake_terminate (setup : Setup σ P Req Resp) (e : CallError) (call : Call σ Resp) :
    (call.terminate setup e).2.call.intake =
      call.intake.takeAll (call.terminateArrivals setup e) := by
  unfold terminate terminateArrivals
  by_cases h : call.terminated = true
  · simp only [h, if_true]
    rfl
  · simp only [h, Bool.false_eq_true, if_false]
    rw [Intake.takeAll_append]
    show (Pass.failWith e (Pass.fail setup e _)).call.intake = _
    rw [Pass.intake_failWith, Pass.intake_fail]
    rfl

theorem intake_send (setup : Setup σ P Req Resp) (parts : List (RequestPart Req))
    (call : Call σ Resp) :
    (call.send setup parts).2.call.intake =
      call.intake.takeAll (Pass.enqueueArrivals setup parts (.start call)) := by
  have enqueued := Pass.intake_enqueue setup parts (.start call)
  unfold send
  split
  · next p h => rwa [h] at enqueued
  · next e p h => rwa [h] at enqueued

/-- What reaches the intake when a call starts. -/
def startArrivals (setup : Setup σ P Req Resp) (invocation : Result Unit) (request : Option Req)
    (call : Call σ Resp) : List (Arrival (ResponsePart Resp)) :=
  match invocation with
  | .error e => [.failure e]
  | .ok () => Pass.enqueueArrivals setup (opening setup request) (.start call)

theorem intake_start (setup : Setup σ P Req Resp) (invocation : Result Unit)
    (request : Option Req) (call : Call σ Resp) :
    (call.start setup invocation request).call.intake =
      call.intake.takeAll (call.startArrivals setup invocation request) := by
  cases invocation with
  | error e => rfl
  | ok u => exact intake_send setup (opening setup request) call

end Call

namespace Event

variable {σ P Req Resp : Type}

def pass (setup : Setup σ P Req Resp) : Event P Req → Call σ Resp → Pass σ P Resp
  | send parts, call => (call.send setup parts).2
  | cancel, call => (call.cancel setup).2
  | expire, call => (call.expire setup).2
  | part p, call => call.onPart setup p
  | error e, call => call.onError setup e

/-- What reaches the intake while an event is handled. -/
def arrivals (setup : Setup σ P Req Resp) :
    Event P Req → Call σ Resp → List (Arrival (ResponsePart Resp))
  | send parts, call => Pass.enqueueArrivals setup parts (.start call)
  | cancel, call => call.terminateArrivals setup .cancelled
  | expire, call =>
    match call.status? with
    | some _ => []
    | none => call.terminateArrivals setup .deadlineExceeded
  | part p, call =>
    match p.tryMap setup.responses.decode with
    | .ok decoded => Pass.chainArrivals setup (.part decoded) (.start call)
    | .error e => Pass.chainArrivals setup (.failure e) (.start call) ++ [.failure e]
  | error e, call => Pass.chainArrivals setup (.failure e) (.start call) ++ [.failure e]

/-- A failure that runs through the chain and then reaches the accumulator in any case. -/
theorem intake_failWith_fail (setup : Setup σ P Req Resp) (e : CallError) (p : Pass σ P Resp) :
    (Pass.failWith e (Pass.fail setup e p)).call.intake =
      p.call.intake.takeAll (Pass.chainArrivals setup (.failure e) p ++ [.failure e]) := by
  rw [Intake.takeAll_append, Pass.intake_failWith, Pass.intake_fail]
  rfl

/-- An event changes the intake by its arrivals only. -/
theorem intake_pass (setup : Setup σ P Req Resp) (event : Event P Req) (call : Call σ Resp) :
    (event.pass setup call).call.intake = call.intake.takeAll (event.arrivals setup call) := by
  cases event with
  | send parts => exact Call.intake_send setup parts call
  | cancel => exact Call.intake_terminate setup .cancelled call
  | expire =>
    simp only [pass, arrivals, Call.expire]
    cases h : call.status? with
    | some status => rfl
    | none => exact Call.intake_terminate setup .deadlineExceeded call
  | part p =>
    simp only [pass, arrivals, Call.onPart]
    cases h : p.tryMap setup.responses.decode with
    | ok decoded => exact Pass.intake_receive setup decoded (.start call)
    | error e =>
      show (Pass.abandon _).call.intake = _
      rw [Pass.intake_abandon]
      exact intake_failWith_fail setup e (.start call)
  | error e => exact intake_failWith_fail setup e (.start call)

end Event

namespace Call

variable {σ P Req Resp : Type}

/-- The state after a move. -/
def move (setup : Setup σ P Req Resp) (call : Call σ Resp) : Move P Req → Call σ Resp
  | .event event => (event.pass setup call).call
  | .pull => call.pull.2
  | .next => call.next.2

/-- The state after a run. -/
def run (setup : Setup σ P Req Resp) (moves : List (Move P Req)) (call : Call σ Resp) :
    Call σ Resp :=
  moves.foldl (move setup) call

/-- What reaches the intake in a move. -/
def moveArrivals (setup : Setup σ P Req Resp) (call : Call σ Resp) :
    Move P Req → List (Arrival (ResponsePart Resp))
  | .event event => event.arrivals setup call
  | _ => []

/-- What reaches the intake in a run. -/
def arrivals (setup : Setup σ P Req Resp) :
    List (Move P Req) → Call σ Resp → List (Arrival (ResponsePart Resp))
  | [], _ => []
  | move :: rest, call =>
    call.moveArrivals setup move ++ arrivals setup rest (call.move setup move)

/-- The parts that leave the chain toward the accumulator in a run. -/
def departures (setup : Setup σ P Req Resp) (moves : List (Move P Req)) (call : Call σ Resp) :
    List (ResponsePart Resp) :=
  (call.arrivals setup moves).filterMap Arrival.part?

def glimpse? (call : Call σ Resp) : Move P Req → Option (Glimpse Resp)
  | .event _ => none
  | .pull => some (.pulled call.pull.1)
  | .next => some (.shown call.next.1)

/-- What the polls of a run show, in order. -/
def glimpses (setup : Setup σ P Req Resp) : List (Move P Req) → Call σ Resp → List (Glimpse Resp)
  | [], _ => []
  | move :: rest, call => (call.glimpse? move).toList ++ glimpses setup rest (call.move setup move)

/-- A call right after its start. -/
def begin (setup : Setup σ P Req Resp) (shared : σ) (invocation : Result Unit)
    (request : Option Req) : Call σ Resp :=
  ((fresh setup.shape shared).start setup invocation request).call

/-- The parts that leave the chain toward the accumulator while a call starts. -/
def startDepartures (setup : Setup σ P Req Resp) (shared : σ) (invocation : Result Unit)
    (request : Option Req) : List (ResponsePart Resp) :=
  ((fresh setup.shape shared).startArrivals setup invocation request).filterMap Arrival.part?

@[simp] theorem run_nil (setup : Setup σ P Req Resp) (call : Call σ Resp) :
    call.run setup [] = call := rfl

@[simp] theorem run_cons (setup : Setup σ P Req Resp) (move : Move P Req)
    (rest : List (Move P Req)) (call : Call σ Resp) :
    call.run setup (move :: rest) = (call.move setup move).run setup rest := rfl

theorem run_append (setup : Setup σ P Req Resp) (first second : List (Move P Req))
    (call : Call σ Resp) :
    call.run setup (first ++ second) = (call.run setup first).run setup second := by
  unfold run
  rw [List.foldl_append]

theorem departures_cons (setup : Setup σ P Req Resp) (move : Move P Req)
    (rest : List (Move P Req)) (call : Call σ Resp) :
    call.departures setup (move :: rest) =
      (call.moveArrivals setup move).filterMap Arrival.part? ++
        (call.move setup move).departures setup rest := by
  unfold departures
  rw [arrivals, List.filterMap_append]

@[simp] theorem intake_mapStream (f : MessageStream Resp → MessageStream Resp)
    (call : Call σ Resp) :
    (call.mapStream f).intake =
      { call.intake with
        accumulator :=
          { call.accumulator with response := call.accumulator.response.mapStream f } } := rfl

/-- A response that is no stream is left alone. -/
theorem mapStream_of_stream?_eq_none {call : Call σ Resp}
    (h : call.accumulator.response.stream? = none) (f : MessageStream Resp → MessageStream Resp) :
    call.mapStream f = call := by
  obtain ⟨⟨outcome, response⟩, order, closed, terminated, sent, shared⟩ := call
  cases response with
  | single message violation => rfl
  | stream messages => cases h

/-- A pull changes the stream only. -/
theorem pull_snd (call : Call σ Resp) : call.pull.2 = call.mapStream fun s => s.pull.2 := by
  unfold pull
  cases h : call.accumulator.response.stream? with
  | none => exact (mapStream_of_stream?_eq_none h _).symm
  | some messages => rfl

/-- A poll of the other face changes the stream only. -/
theorem next_snd (call : Call σ Resp) : call.next.2 = call.mapStream fun s => s.next.2 := by
  unfold next
  cases h : call.accumulator.response.stream? with
  | none => exact (mapStream_of_stream?_eq_none h _).symm
  | some messages => rfl

end Call

end RemoteCall.Client
