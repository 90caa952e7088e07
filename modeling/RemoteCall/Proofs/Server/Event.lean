import RemoteCall.Server.Serving

/-!
# Runs of a served call

What happens to a call on the server's side is a list of `Event`s: what the transport delivers,
the writes of whoever has a writer, the return of the handler, and what holders of the context
and of the request stream do with them. `Call.run` is the state after such a list, and
`Call.outputs` the parts that it hands to the transport.

A served call moves as a whole: its transport, its handler and everybody who got hold of
something of it take turns in any order, one `Move` at a time. Whatever moves there are, the call
inside sees a list of events (`Serving.follows_run`), so what every event keeps, every served
call keeps, whoever the handler is. What the transport does is set apart: all other moves are made
of events of the server's own (`Serving.acts_perform`), and they leave it to the transport to hold
on to the call. Only a call that nobody can write to is let go of; any other move is work at it
(`Serving.works_perform`).
-/

namespace RemoteCall.Server

variable {σ P Req Resp S : Type}

/-- The part for the transport, if this is one. -/
def ServerOp.part? : ServerOp P Req → Option (ResponsePart P)
  | start _ => none
  | send part => some part

/-- The parts that a pass hands to the transport. -/
def Pass.parts (p : Pass σ P Req) : List (ResponsePart P) := p.ops.filterMap ServerOp.part?

/-- What a holder of the context does with it. -/
inductive Use (σ : Type) where
  | stageHeader (name value : String)
  | stageTrailer (name value : String)
  | allowCompression (allowed : Bool)
  | note (update : σ → σ)

def Use.apply : Use σ → Context σ → Context σ
  | stageHeader name value, context => context.stageHeader name value
  | stageTrailer name value, context => context.stageTrailer name value
  | allowCompression allowed, context => { context with compression := allowed }
  | note update, context => { context with shared := update context.shared }

/-- Something that happens to a call. -/
inductive Event (σ P Req Resp : Type) where
  /-- The transport delivers a part. -/
  | receive (part : RequestPart P)
  /-- The transport reports that the client cancelled or was lost. -/
  | error (e : CallError)
  /-- The transport lets go of the call. -/
  | release
  /-- Somebody writes a message. -/
  | write (transport : Bool) (message : Resp) (compression : Compression)
  /-- The handler returns. -/
  | finish (result : Result Unit)
  /-- Somebody uses the context. -/
  | use (how : Use σ)
  /-- Somebody polls the request stream. -/
  | poll
  /-- Nobody can feed the request stream any more. -/
  | abandon

/-- Whether an event is one of the server's own, and not one of the transport. -/
def Event.isOwn : Event σ P Req Resp → Bool
  | receive _ => false
  | error _ => false
  | release => false
  | _ => true

/-- Whether an event is work at the call: one of the server's own that leaves the request stream
those who feed it. -/
def Event.isWork : Event σ P Req Resp → Bool
  | abandon => false
  | event => event.isOwn

theorem Event.isOwn_of_isWork {event : Event σ P Req Resp} (work : event.isWork = true) :
    event.isOwn = true := by
  cases event with
  | abandon => cases work
  | _ => exact work

def Event.pass (method : Method σ P Req Resp) :
    Event σ P Req Resp → Call σ Req → Pass σ P Req
  | receive part, call => call.receive method part
  | error e, call => call.receiveError method e
  | release, call => .start call.release
  | write transport message compression, call =>
    (call.write method transport message compression).2
  | finish result, call => call.finish method result
  | use how, call => .start { call with context := how.apply call.context }
  | poll, call => .start { call with requests := call.requests.pull.2 }
  | abandon, call => .start { call with requests := call.requests.abandon }

namespace Call

/-- The state after events. -/
def run (method : Method σ P Req Resp) (events : List (Event σ P Req Resp))
    (call : Call σ Req) : Call σ Req :=
  events.foldl (fun call event => (event.pass method call).call) call

/-- The parts that events hand to the transport. -/
def outputs (method : Method σ P Req Resp) :
    List (Event σ P Req Resp) → Call σ Req → List (ResponsePart P)
  | [], _ => []
  | event :: rest, call =>
    (event.pass method call).parts ++ outputs method rest (event.pass method call).call

theorem run_append (method : Method σ P Req Resp) (first second : List (Event σ P Req Resp))
    (call : Call σ Req) :
    call.run method (first ++ second) = (call.run method first).run method second := by
  unfold run
  rw [List.foldl_append]

theorem outputs_append (method : Method σ P Req Resp) (first second : List (Event σ P Req Resp))
    (call : Call σ Req) :
    call.outputs method (first ++ second) =
      call.outputs method first ++ (call.run method first).outputs method second := by
  induction first generalizing call with
  | nil => rfl
  | cons event rest ih =>
    have rest := ih (event.pass method call).call
    simp only [List.cons_append, outputs, rest, List.append_assoc]
    rfl

/-- Events lead from one state to the other and hand these parts to the transport. -/
def Leads (method : Method σ P Req Resp) (call call' : Call σ Req)
    (parts : List (ResponsePart P)) : Prop :=
  ∃ events : List (Event σ P Req Resp),
    call.run method events = call' ∧ call.outputs method events = parts

/-- Own events of the server lead from one state to the other and hand these parts to the
transport. -/
def Acts (method : Method σ P Req Resp) (call call' : Call σ Req)
    (parts : List (ResponsePart P)) : Prop :=
  ∃ events : List (Event σ P Req Resp), (∀ event ∈ events, event.isOwn = true) ∧
    call.run method events = call' ∧ call.outputs method events = parts

/-- Work at the call leads from one state to the other and hands these parts to the transport. -/
def Works (method : Method σ P Req Resp) (call call' : Call σ Req)
    (parts : List (ResponsePart P)) : Prop :=
  ∃ events : List (Event σ P Req Resp), (∀ event ∈ events, event.isWork = true) ∧
    call.run method events = call' ∧ call.outputs method events = parts

end Call

/-- Something that a served call does by itself, or that is done to it. -/
inductive Move (σ P Req Resp : Type) where
  | receive (part : RequestPart P)
  | error (e : CallError)
  | release
  /-- The handler goes on, if it can. -/
  | task (now : Nat) (signals : Nat → Signal)
  /-- The clock has moved. -/
  | tick (now : Nat)
  /-- Somebody starts a write or a wait. -/
  | engage (errand : Errand (Job Resp))
  /-- Somebody polls what was started under a name. -/
  | poll (id : String)
  /-- Somebody drops what was started under a name. -/
  | drop (id : String)
  /-- What somebody started goes on, if it can. -/
  | errand (signals : Nat → Signal)
  /-- Somebody uses the context. -/
  | use (how : Use σ)
  /-- Somebody polls the request stream. -/
  | pull
  /-- Whoever got hold of something lets go of it. -/
  | giveBack
  /-- The call is let go of, if nobody can write to it any more. -/
  | dissolve

/-- Whether a move is one of the transport. -/
def Move.isTransport : Move σ P Req Resp → Bool
  | .receive _ => true
  | .error _ => true
  | .release => true
  | _ => false

namespace Serving

/-- A served call after a move, and the parts that the move hands to the transport. A move that
is not possible changes nothing. -/
def perform (s : Serving σ P Req Resp S) :
    Move σ P Req Resp → Serving σ P Req Resp S × List (ResponsePart P)
  | .receive part => s.receive part
  | .error e => s.receiveError e
  | .release => (s.release, [])
  | .task now signals => (s.moveTask? now signals).getD (s, [])
  | .tick now => (s.tick now, [])
  | .engage errand => (s.engage errand, [])
  | .poll id => ({ s with errands := Errand.poll s.errands id }, [])
  | .drop id => ({ s with errands := Errand.erase s.errands id }, [])
  | .errand signals => (s.moveErrand? signals).getD (s, [])
  | .use how => ({ s with call := { s.call with context := how.apply s.call.context } }, [])
  | .pull => ({ s with call := { s.call with requests := s.call.requests.pull.2 } }, [])
  | .giveBack => ({ s with loan := {} }, [])
  | .dissolve => (s.dissolve?.getD s, [])

/-- A served call after moves. -/
def run (s : Serving σ P Req Resp S) (moves : List (Move σ P Req Resp)) :
    Serving σ P Req Resp S :=
  moves.foldl (fun s move => (s.perform move).1) s

/-- The parts that moves hand to the transport, in order. -/
def outputs : List (Move σ P Req Resp) → Serving σ P Req Resp S → List (ResponsePart P)
  | [], _ => []
  | move :: rest, s => (s.perform move).2 ++ outputs rest (s.perform move).1

theorem run_append (s : Serving σ P Req Resp S) (first second : List (Move σ P Req Resp)) :
    s.run (first ++ second) = (s.run first).run second := by
  unfold run
  rw [List.foldl_append]

theorem run_concat (s : Serving σ P Req Resp S) (moves : List (Move σ P Req Resp))
    (move : Move σ P Req Resp) : s.run (moves ++ [move]) = ((s.run moves).perform move).1 :=
  run_append s moves [move]

theorem outputs_concat (moves : List (Move σ P Req Resp)) (move : Move σ P Req Resp)
    (s : Serving σ P Req Resp S) :
    s.outputs (moves ++ [move]) = s.outputs moves ++ ((s.run moves).perform move).2 := by
  induction moves generalizing s with
  | nil => exact List.append_nil _
  | cons first rest ih =>
    have later := ih (s.perform first).1
    simp only [List.cons_append, outputs, later, List.append_assoc]
    rfl

/-- What a refused or accepted response means for the end of the call. -/
def concluding (s : Serving σ P Req Resp S) (response : Resp) : List (Event σ P Req Resp) :=
  match (s.call.write s.method s.compression response .deferred).1 with
  | .ok _ => []
  | .error e => [.finish (.error e)]

/-- The events that grant a wish. -/
def granting (s : Serving σ P Req Resp S) :
    Wish σ Req Resp S → List (Event σ P Req Resp)
  | .write message compression _ => [.write s.compression message compression]
  | .stageHeader name value _ => [.use (.stageHeader name value)]
  | .stageTrailer name value _ => [.use (.stageTrailer name value)]
  | .allowCompression allowed _ => [.use (.allowCompression allowed)]
  | .note update _ => [.use (.note update)]
  | .finish (.error e) => [.finish (.error e)]
  | .finish (.ok none) => [.finish (.ok ())]
  | .finish (.ok (some response)) =>
    .write s.compression response .deferred :: s.concluding response
  | _ => []

/-- The events by which a wait ends, if it is over: a wait for a request polls the stream, and
after the wait for the response the handler has returned. -/
def resuming (s : Serving σ P Req Resp S) (signals : Nat → Signal) :
    Wait Req S → List (Event σ P Req Resp)
  | .request _ =>
    match s.call.requests.pull.1 with
    | .ready _ => [.poll]
    | .pending => []
  | .response batch => ((Receipt.awaitAll signals batch).map Event.finish).toList
  | _ => []

/-- The events of a move of the handler's task. -/
def taskEvents (s : Serving σ P Req Resp S) (signals : Nat → Signal) :
    List (Event σ P Req Resp) :=
  match s.task with
  | .awake state => s.granting (s.handler.wish state)
  | .checking wait => s.resuming signals wait
  | .waiting wait => if s.isCancelled then [] else s.resuming signals wait
  | _ => []

/-- The events of a move of somebody's job: a write, or none. -/
def jobEvents (s : Serving σ P Req Resp S) : Job Resp → List (Event σ P Req Resp)
  | .write message compression => [.write s.compression message compression]
  | _ => []

/-- The events of a move of somebody else's errand. -/
def errandEvents (s : Serving σ P Req Resp S) (signals : Nat → Signal) :
    List (Event σ P Req Resp) :=
  match Errand.next? (s.moveJob? signals) s.errands with
  | some (_, errand, _, _) => s.jobEvents errand.job
  | none => []

/-- The events of the call inside that a move is made of. -/
def events (s : Serving σ P Req Resp S) : Move σ P Req Resp → List (Event σ P Req Resp)
  | .receive part => [.receive part]
  | .error e => [.error e]
  | .release => [.release]
  | .task _ signals => s.taskEvents signals
  | .errand signals => s.errandEvents signals
  | .use how => [.use how]
  | .pull => [.poll]
  | .dissolve => if s.dissolve?.isSome then [.abandon] else []
  | _ => []

/-- A served call goes on by these events of the call inside, while the transport holds on to it
as before. -/
structure GoesBy (s : Serving σ P Req Resp S) (events : List (Event σ P Req Resp))
    (out : Serving σ P Req Resp S × List (ResponsePart P)) : Prop where
  method : out.1.method = s.method
  held : out.1.held = s.held
  call : out.1.call = s.call.run s.method events
  parts : out.2 = s.call.outputs s.method events

variable {s : Serving σ P Req Resp S}

/-- What leaves the call alone is no event at all. -/
theorem GoesBy.same {s' : Serving σ P Req Resp S} (method : s'.method = s.method)
    (held : s'.held = s.held) (call : s'.call = s.call) : s.GoesBy [] (s', []) :=
  ⟨method, held, call, rfl⟩

/-- A pass that handles an event. -/
theorem GoesBy.settle (event : Event σ P Req Resp) :
    s.GoesBy [event] (s.settle (event.pass s.method s.call)) :=
  ⟨rfl, rfl, rfl, (List.append_nil _).symm⟩

theorem GoesBy.trans {first second : List (Event σ P Req Resp)}
    {mid out : Serving σ P Req Resp S × List (ResponsePart P)} (begun : s.GoesBy first mid)
    (ends : mid.1.GoesBy second out) : s.GoesBy (first ++ second) (out.1, mid.2 ++ out.2) := by
  have call := ends.call
  have parts := ends.parts
  rw [begun.method, begun.call] at call parts
  refine ⟨ends.method.trans begun.method, ends.held.trans begun.held, ?_, ?_⟩
  · rw [call, Call.run_append]
  · rw [begun.parts, parts, Call.outputs_append]

/-- What becomes of the task does not matter. -/
theorem GoesBy.withTask {events : List (Event σ P Req Resp)}
    {out : Serving σ P Req Resp S × List (ResponsePart P)} (goes : s.GoesBy events out)
    (task : Task Req S) : s.GoesBy events (out.1.withTask task, out.2) :=
  ⟨goes.method, goes.held, goes.call, goes.parts⟩

theorem goesBy_conclude (s : Serving σ P Req Resp S) (result : Result Unit) :
    s.GoesBy [.finish result] (s.conclude result) :=
  (GoesBy.settle (.finish result)).withTask .gone

/-- A wait that is not over leaves the events to come. -/
theorem resuming_of_waits {now : Nat} {signals : Nat → Signal} {wait : Wait Req S}
    (waits : wait.resume? now signals s.call = none) : s.resuming signals wait = [] := by
  cases wait with
  | request go =>
    simp only [Wait.resume?] at waits
    cases pulled : s.call.requests.pull with
    | mk answer requests =>
      rw [pulled] at waits
      cases answer with
      | ready answer => cases waits
      | pending => simp only [resuming, pulled]
  | response batch =>
    have unsettled : Receipt.awaitAll signals batch = none := Option.map_eq_none_iff.mp waits
    simp only [resuming, unsettled]
    rfl
  | receipts batch go => rfl
  | cancellation go => rfl
  | time due go => rfl

theorem goesBy_resume {now : Nat} {signals : Nat → Signal} {wait : Wait Req S}
    {r : Resumption S × Call σ Req} (resumed : wait.resume? now signals s.call = some r) :
    s.GoesBy (s.resuming signals wait) (s.resume r) := by
  cases wait with
  | request go =>
    simp only [Wait.resume?] at resumed
    cases pulled : s.call.requests.pull with
    | mk answer requests =>
      rw [pulled] at resumed
      cases answer with
      | pending => cases resumed
      | ready answer =>
        cases resumed
        simp only [resuming, pulled]
        refine ⟨rfl, rfl, ?_, rfl⟩
        simp only [Call.run, List.foldl_cons, Event.pass, pulled]
        rfl
  | receipts batch go =>
    obtain ⟨result, -, rfl⟩ := Option.map_eq_some_iff.mp resumed
    exact .same rfl rfl rfl
  | response batch =>
    obtain ⟨result, settled, rfl⟩ := Option.map_eq_some_iff.mp resumed
    simp only [resuming, settled]
    exact goesBy_conclude s result
  | cancellation go =>
    obtain ⟨-, h⟩ := Option.ite_none_right_eq_some.mp resumed
    cases h
    exact .same rfl rfl rfl
  | time due go =>
    obtain ⟨-, h⟩ := Option.ite_none_right_eq_some.mp resumed
    cases h
    exact .same rfl rfl rfl

/-- Every wish is granted by events: a write, the end, a use of the context, or none. -/
theorem goesBy_grant (s : Serving σ P Req Resp S) (now : Nat) (wish : Wish σ Req Resp S) :
    s.GoesBy (s.granting wish) (s.grant now wish) := by
  -- A write leads on in the same way whether it is refused or not.
  have writes : ∀ message compression,
      s.GoesBy [.write s.compression message compression]
        (s.settle (s.call.write s.method s.compression message compression).2) :=
    fun message compression => .settle (.write s.compression message compression)
  cases wish with
  | pull go =>
    simp only [grant]
    split
    · exact .same rfl rfl rfl
    · exact .same rfl rfl rfl
  | write message compression go =>
    have written := writes message compression
    simp only [grant]
    split <;> next heq =>
      rw [heq] at written
      exact written.withTask _
  | stageHeader name value go =>
    exact (GoesBy.settle (.use (.stageHeader name value))).withTask (.awake go)
  | stageTrailer name value go =>
    exact (GoesBy.settle (.use (.stageTrailer name value))).withTask (.awake go)
  | allowCompression allowed go =>
    exact (GoesBy.settle (.use (.allowCompression allowed))).withTask (.awake go)
  | note update go => exact (GoesBy.settle (.use (.note update))).withTask (.awake go)
  | observe go => exact .same rfl rfl rfl
  | awaitCancelled go => exact .same rfl rfl rfl
  | sleep milliseconds go => exact .same rfl rfl rfl
  | lend go => exact .same rfl rfl rfl
  | lendStream go => exact .same rfl rfl rfl
  | finish result =>
    cases result with
    | error e => exact goesBy_conclude s (.error e)
    | ok response =>
      cases response with
      | none => exact goesBy_conclude s (.ok ())
      | some response =>
        have written := writes response .deferred
        simp only [grant, granting, concluding]
        cases taken : s.call.write s.method s.compression response .deferred with
        | mk outcome p =>
          rw [taken] at written
          cases outcome with
          | ok receipts => exact written.withTask _
          | error e => exact written.trans (goesBy_conclude _ _)

theorem goesBy_task (s : Serving σ P Req Resp S) (now : Nat) (signals : Nat → Signal) :
    s.GoesBy (s.taskEvents signals) ((s.moveTask? now signals).getD (s, [])) := by
  -- A wait that is polled ends by its events, or goes on.
  have polled : ∀ wait (task : Task Req S), s.GoesBy (s.resuming signals wait)
      (((wait.resume? now signals s.call).map s.resume).getD (s.withTask task, [])) := by
    intro wait task
    cases resumed : wait.resume? now signals s.call with
    | none =>
      rw [resuming_of_waits resumed]
      exact .same rfl rfl rfl
    | some r => exact goesBy_resume resumed
  unfold moveTask? taskEvents
  cases task : s.task with
  | absent => exact .same rfl rfl rfl
  | gone => exact .same rfl rfl rfl
  | spawned request =>
    simp only
    split <;> exact .same rfl rfl rfl
  | awake state => exact goesBy_grant s now _
  | checking wait =>
    have goes := polled wait (.waiting wait)
    simp only
    cases resumed : wait.resume? now signals s.call with
    | none =>
      rw [resumed] at goes
      exact goes
    | some r =>
      rw [resumed] at goes
      exact goes
  | waiting wait =>
    simp only
    split
    · exact .same rfl rfl rfl
    · have goes := polled wait s.task
      rwa [show s.withTask s.task = s from rfl] at goes

/-- A job writes, or leaves the call alone. -/
theorem goesBy_job {signals : Nat → Signal} {job : Job Resp}
    {turn : Turn (Job Resp) Answer} {p : Pass σ P Req}
    (moved : s.moveJob? signals job = some (turn, p)) :
    s.GoesBy (s.jobEvents job) (s.settle p) := by
  cases job with
  | write message compression =>
    cases moved
    exact .settle (.write s.compression message compression)
  | accept batch =>
    cases batch with
    | error e =>
      cases moved
      exact .same rfl rfl rfl
    | ok receipts =>
      obtain ⟨result, -, moved⟩ := Option.map_eq_some_iff.mp moved
      cases moved
      exact .same rfl rfl rfl
  | awaitCancelled =>
    obtain ⟨-, moved⟩ := Option.ite_none_right_eq_some.mp moved
    cases moved
    exact .same rfl rfl rfl

theorem goesBy_errand (s : Serving σ P Req Resp S) (signals : Nat → Signal) :
    s.GoesBy (s.errandEvents signals) ((s.moveErrand? signals).getD (s, [])) := by
  unfold moveErrand? errandEvents
  cases found : Errand.next? (s.moveJob? signals) s.errands with
  | none => exact .same rfl rfl rfl
  | some next =>
    obtain ⟨before, errand, ⟨turn, p⟩, behind⟩ := next
    obtain ⟨-, moved⟩ := eq_append_of_pickFirst? found
    have goes := goesBy_job (Option.ite_none_right_eq_some.mp moved).2
    cases turn <;> exact ⟨goes.method, goes.held, goes.call, goes.parts⟩

/-- A move that is none of the transport goes by its events. -/
theorem goesBy_perform (s : Serving σ P Req Resp S) {move : Move σ P Req Resp}
    (own : move.isTransport = false) : s.GoesBy (s.events move) (s.perform move) := by
  cases move with
  | receive part => cases own
  | error e => cases own
  | release => cases own
  | task now signals => exact goesBy_task s now signals
  | tick now =>
    show s.GoesBy [] (s.tick now, [])
    unfold tick
    split
    · split <;> exact .same rfl rfl rfl
    · exact .same rfl rfl rfl
  | engage errand => exact .same rfl rfl rfl
  | poll id => exact .same rfl rfl rfl
  | drop id => exact .same rfl rfl rfl
  | errand signals => exact goesBy_errand s signals
  | use how => exact ⟨rfl, rfl, rfl, rfl⟩
  | pull => exact ⟨rfl, rfl, rfl, rfl⟩
  | giveBack => exact .same rfl rfl rfl
  | dissolve =>
    show s.GoesBy (if s.dissolve?.isSome then [.abandon] else []) (s.dissolve?.getD s, [])
    cases h : s.dissolve? with
    | none => exact .same rfl rfl rfl
    | some s' =>
      obtain ⟨-, h⟩ := Option.ite_none_left_eq_some.mp h
      cases h
      exact ⟨rfl, rfl, rfl, rfl⟩

@[simp] theorem method_perform (s : Serving σ P Req Resp S) (move : Move σ P Req Resp) :
    (s.perform move).1.method = s.method := by
  cases own : move.isTransport with
  | false => exact (goesBy_perform s own).method
  | true => cases move <;> first | rfl | cases own

/-- Only the transport lets go of its hold. -/
theorem held_perform (s : Serving σ P Req Resp S) {move : Move σ P Req Resp}
    (holds : move ≠ .release) : (s.perform move).1.held = s.held := by
  cases own : move.isTransport with
  | false => exact (goesBy_perform s own).held
  | true =>
    cases move with
    | receive part => rfl
    | error e => rfl
    | release => exact absurd rfl holds
    | _ => cases own

theorem call_perform (s : Serving σ P Req Resp S) (move : Move σ P Req Resp) :
    (s.perform move).1.call = s.call.run s.method (s.events move) := by
  cases own : move.isTransport with
  | false => exact (goesBy_perform s own).call
  | true => cases move <;> first | rfl | cases own

theorem parts_perform (s : Serving σ P Req Resp S) (move : Move σ P Req Resp) :
    (s.perform move).2 = s.call.outputs s.method (s.events move) := by
  cases own : move.isTransport with
  | false => exact (goesBy_perform s own).parts
  | true => cases move <;> first | exact (List.append_nil _).symm | rfl | cases own

/-- The events of the call inside that moves are made of. -/
def history : List (Move σ P Req Resp) → Serving σ P Req Resp S → List (Event σ P Req Resp)
  | [], _ => []
  | move :: rest, s => s.events move ++ history rest (s.perform move).1

theorem history_append (s : Serving σ P Req Resp S) (first second : List (Move σ P Req Resp)) :
    s.history (first ++ second) = s.history first ++ (s.run first).history second := by
  induction first generalizing s with
  | nil => rfl
  | cons move rest ih =>
    rw [List.cons_append, history, history, ih, List.append_assoc]
    rfl

theorem history_concat (s : Serving σ P Req Resp S) (moves : List (Move σ P Req Resp))
    (move : Move σ P Req Resp) :
    s.history (moves ++ [move]) = s.history moves ++ (s.run moves).events move := by
  rw [history_append]
  exact congrArg _ (List.append_nil _)

@[simp] theorem method_run (s : Serving σ P Req Resp S) (moves : List (Move σ P Req Resp)) :
    (s.run moves).method = s.method := by
  induction moves generalizing s with
  | nil => rfl
  | cons move rest ih => exact (ih _).trans (method_perform s move)

theorem call_run (s : Serving σ P Req Resp S) (moves : List (Move σ P Req Resp)) :
    (s.run moves).call = s.call.run s.method (s.history moves) := by
  induction moves generalizing s with
  | nil => rfl
  | cons move rest ih =>
    have later := ih (s.perform move).1
    rw [method_perform, call_perform] at later
    rw [history, Call.run_append, ← later]
    rfl

theorem outputs_eq (s : Serving σ P Req Resp S) (moves : List (Move σ P Req Resp)) :
    s.outputs moves = s.call.outputs s.method (s.history moves) := by
  induction moves generalizing s with
  | nil => rfl
  | cons move rest ih =>
    rw [outputs, ih, history, Call.outputs_append, parts_perform, method_perform, call_perform]

/-! ### Whose events they are -/

theorem isWork_granting (s : Serving σ P Req Resp S) (wish : Wish σ Req Resp S) :
    ∀ event ∈ s.granting wish, event.isWork = true := by
  -- All are writes, ends or uses of the context.
  cases wish with
  | finish result =>
    obtain e | response := result
    · exact List.forall_mem_singleton.mpr rfl
    · cases response with
      | none => exact List.forall_mem_singleton.mpr rfl
      | some response =>
        refine List.forall_mem_cons.mpr ⟨rfl, ?_⟩
        unfold concluding
        split
        · exact List.forall_mem_nil _
        · exact List.forall_mem_singleton.mpr rfl
  | write message compression go => exact List.forall_mem_singleton.mpr rfl
  | stageHeader name value go => exact List.forall_mem_singleton.mpr rfl
  | stageTrailer name value go => exact List.forall_mem_singleton.mpr rfl
  | allowCompression allowed go => exact List.forall_mem_singleton.mpr rfl
  | note update go => exact List.forall_mem_singleton.mpr rfl
  | _ => exact List.forall_mem_nil _

theorem isWork_resuming (s : Serving σ P Req Resp S) (signals : Nat → Signal) (wait : Wait Req S) :
    ∀ event ∈ s.resuming signals wait, event.isWork = true := by
  cases wait with
  | request go =>
    unfold resuming
    cases s.call.requests.pull.1 with
    | ready answer => exact List.forall_mem_singleton.mpr rfl
    | pending => exact List.forall_mem_nil _
  | response batch =>
    simp only [resuming]
    cases Receipt.awaitAll signals batch with
    | none => exact List.forall_mem_nil _
    | some result => exact List.forall_mem_singleton.mpr rfl
  | receipts batch go => exact List.forall_mem_nil _
  | cancellation go => exact List.forall_mem_nil _
  | time due go => exact List.forall_mem_nil _

/-- A move that is none of the transport is work at the call, unless it lets go of the call. -/
theorem isWork_events (s : Serving σ P Req Resp S) {move : Move σ P Req Resp}
    (own : move.isTransport = false) (stays : move ≠ .dissolve) :
    ∀ event ∈ s.events move, event.isWork = true := by
  cases move with
  | receive part => cases own
  | error e => cases own
  | release => cases own
  | task now signals =>
    show ∀ event ∈ s.taskEvents signals, event.isWork = true
    unfold taskEvents
    split
    · exact isWork_granting s _
    · exact isWork_resuming s signals _
    · split
      · exact List.forall_mem_nil _
      · exact isWork_resuming s signals _
    · exact List.forall_mem_nil _
  | tick now => exact List.forall_mem_nil _
  | engage errand => exact List.forall_mem_nil _
  | poll id => exact List.forall_mem_nil _
  | drop id => exact List.forall_mem_nil _
  | errand signals =>
    show ∀ event ∈ s.errandEvents signals, event.isWork = true
    unfold errandEvents jobEvents
    split
    · split
      · exact List.forall_mem_singleton.mpr rfl
      · exact List.forall_mem_nil _
    · exact List.forall_mem_nil _
  | use how => exact List.forall_mem_singleton.mpr rfl
  | pull => exact List.forall_mem_singleton.mpr rfl
  | giveBack => exact List.forall_mem_nil _
  | dissolve => exact absurd rfl stays

/-- A move that is none of the transport is made of own events. -/
theorem isOwn_events (s : Serving σ P Req Resp S) {move : Move σ P Req Resp}
    (own : move.isTransport = false) : ∀ event ∈ s.events move, event.isOwn = true := by
  by_cases dissolves : move = .dissolve
  · subst dissolves
    simp only [events]
    split
    · exact List.forall_mem_singleton.mpr rfl
    · exact List.forall_mem_nil _
  · exact fun event mem => event.isOwn_of_isWork (isWork_events s own dissolves event mem)

/-- A served call goes on to another state by events of the call inside. -/
structure Follows (s : Serving σ P Req Resp S)
    (out : Serving σ P Req Resp S × List (ResponsePart P)) : Prop where
  method : out.1.method = s.method
  call : Call.Leads s.method s.call out.1.call out.2

/-- A served call goes on by itself, while the transport holds on to it as before. -/
structure Acts (s : Serving σ P Req Resp S)
    (out : Serving σ P Req Resp S × List (ResponsePart P)) : Prop where
  method : out.1.method = s.method
  held : out.1.held = s.held
  call : Call.Acts s.method s.call out.1.call out.2

/-- A served call goes on by work at it. -/
structure Works (s : Serving σ P Req Resp S)
    (out : Serving σ P Req Resp S × List (ResponsePart P)) : Prop where
  method : out.1.method = s.method
  held : out.1.held = s.held
  call : Call.Works s.method s.call out.1.call out.2

theorem works_perform (s : Serving σ P Req Resp S) {move : Move σ P Req Resp}
    (own : move.isTransport = false) (stays : move ≠ .dissolve) : s.Works (s.perform move) :=
  have goes := goesBy_perform s own
  ⟨goes.method, goes.held, _, isWork_events s own stays, goes.call.symm, goes.parts.symm⟩

theorem acts_perform (s : Serving σ P Req Resp S) {move : Move σ P Req Resp}
    (own : move.isTransport = false) : s.Acts (s.perform move) :=
  have goes := goesBy_perform s own
  ⟨goes.method, goes.held, _, isOwn_events s own, goes.call.symm, goes.parts.symm⟩

/-- Every run is made of events of the call inside. -/
theorem follows_run (s : Serving σ P Req Resp S) (moves : List (Move σ P Req Resp)) :
    s.Follows (s.run moves, s.outputs moves) :=
  ⟨method_run s moves, _, (call_run s moves).symm, (outputs_eq s moves).symm⟩

end Serving

end RemoteCall.Server
