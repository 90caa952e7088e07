import RemoteCall.Proofs.Link
import RemoteCall.Proofs.Loopback.Run
import RemoteCall.Proofs.Server.Lost

/-!
# Both ends of a call

An `Invocation` is a call to a registered route, by a client without interceptors. Its client may
do whatever it wants, and its server may have any interceptors and any handler. Throughout its
runs the server takes, in order, what the client asks of the link, and the link is open as long as
the call is not terminated (`Stage`); so what the client knows, what it asked for and what the
server has taken belong together (`Tied`).
-/

namespace RemoteCall

open Client (Active Asks Event Setup TransportOp)
open Server (Serving)

variable {τ σ P Req Resp S : Type}

/-! ### What travels over the link -/

/-- What the client asked for. -/
def ToServer.op : ToServer P → TransportOp P
  | .part payload _ => .send payload
  | .cancel _ => .cancel

/-- What the server is told. -/
def Client.TransportOp.move : TransportOp P → Server.Move σ P Req Resp
  | send part => .receive part
  | cancel => .error .cancelled

/-- An open link queues the parts that it is given. -/
theorem Link.upstream_sends {link : Link P} (isOpen : link.isOpen = true)
    (parts : List (RequestPart P)) :
    ∃ entries, ((parts.map TransportOp.send).foldl Loopback.apply link).upstream =
        { link.upstream with toServer := link.upstream.toServer ++ entries } ∧
      entries.map ToServer.op = parts.map .send := by
  induction parts generalizing link with
  | nil =>
    refine ⟨[], ?_, rfl⟩
    rw [List.append_nil]
    rfl
  | cons part rest ih =>
    have sent : link.send part = { link with
        toServer := link.toServer ++ [.part part link.requestSignals.length]
        requestSignals := link.requestSignals ++ [.waiting] } := by
      rw [Link.send, if_pos isOpen]
    have still : (link.send part).isOpen = true := by
      rw [sent]
      exact isOpen
    obtain ⟨entries, queued, same⟩ := ih still
    refine ⟨.part part link.requestSignals.length :: entries, ?_,
      congrArg (TransportOp.send part :: ·) same⟩
    rw [List.map_cons, List.foldl_cons]
    show ((rest.map TransportOp.send).foldl Loopback.apply (link.send part)).upstream = _
    rw [queued, sent]
    simp only [Link.upstream, List.append_assoc, List.singleton_append]

/-- What is asked of a link goes into its queue, and a cancellation closes it. -/
theorem Link.upstream_requests {link : Link P} {σ Resp : Type}
    {before after : Client.Call σ Resp} {ops : List (TransportOp P)}
    (asks : Asks before after ops) (isOpen : link.isOpen = !before.terminated) :
    ∃ entries, (ops.foldl Loopback.apply link).upstream =
        { link.upstream with
          isOpen := !after.terminated, toServer := link.upstream.toServer ++ entries } ∧
      entries.map ToServer.op = ops := by
  cases asks with
  | nothing terminated closed =>
    refine ⟨[], ?_, rfl⟩
    rw [terminated, ← isOpen, List.append_nil]
    rfl
  | send running still closed =>
    rw [running] at isOpen
    obtain ⟨entries, queued, same⟩ := upstream_sends isOpen _
    refine ⟨entries, ?_, same⟩
    rw [queued, still]
    simp only [Link.upstream, isOpen]
  | cancel running given closed =>
    have isOpen : link.isOpen = true := by rw [isOpen, running, Bool.not_false]
    refine ⟨[.cancel link.cancelSignals.length], ?_, rfl⟩
    show (link.cancel).upstream = _
    rw [Link.cancel, if_pos isOpen, given]
    rfl

/-! ### Invocations -/

/-- A call to a registered route, by a client without interceptors. -/
structure Invocation (τ σ P Req Resp S : Type) where
  setup : Setup τ P Req Resp
  /-- The request, if it is sent at once. -/
  request : Option Req
  /-- What the client's side shares. -/
  shared : τ
  /-- What the path leads to. -/
  target : Target σ P Req Resp S
  /-- The server permits compressed messages. -/
  compression : Bool
  /-- What the server's side shares. -/
  context : σ
  plain : setup.chain = .empty

namespace Invocation

/-- The link, and the server behind it. -/
def farEnd (x : Invocation τ σ P Req Resp S) : FarEnd σ P Req Resp S where
  path := x.setup.path
  target := some x.target
  compression := x.compression
  shared := x.context

/-- The call that the server serves, before anything has arrived. -/
def served (x : Invocation τ σ P Req Resp S) : Serving σ P Req Resp S :=
  .fresh x.target.method x.target.handler x.compression x.setup.path x.context

/-- What the client sends when the call starts. -/
def opening (x : Invocation τ σ P Req Resp S) : List (TransportOp P) :=
  ((Client.Call.fresh x.setup.shape x.shared).send x.setup
    (Client.Call.opening x.setup x.request)).2.ops

def start (x : Invocation τ σ P Req Resp S) (now : Nat) : Loopback τ σ P Req Resp S :=
  .start x.setup x.shared now x.farEnd x.request

/-- The link leads to the route. -/
structure Aims (x : Invocation τ σ P Req Resp S) (far : FarEnd σ P Req Resp S) : Prop where
  path : far.path = x.setup.path
  target : far.target = some x.target
  compression : far.compression = x.compression
  context : far.shared = x.context

theorem Aims.same {x : Invocation τ σ P Req Resp S} {far : FarEnd σ P Req Resp S}
    (aims : x.Aims far) (link : Link P) (serving : Option (Serving σ P Req Resp S)) :
    x.Aims { far with link, serving } :=
  ⟨aims.path, aims.target, aims.compression, aims.context⟩

/-- How far the server has come with what the client asked for. The link is open as long as the
call is not terminated. -/
inductive Stage (x : Invocation τ σ P Req Resp S) (asked : List (TransportOp P)) :
    (terminated : Bool) → List (Server.Move σ P Req Resp) → Link.Upstream P →
      Option (Serving σ P Req Resp S) → Prop where
  | starting {terminated : Bool} {queue : List (ToServer P)}
      (queued : queue.map ToServer.op = asked) :
      Stage x asked terminated [] ⟨!terminated, queue, .starting, false⟩ none
  | running {terminated : Bool} {moves : List (Server.Move σ P Req Resp)}
      {queue : List (ToServer P)} (taken : List (TransportOp P))
      (held : (x.served.run moves).held = true)
      (handed : moves.filter Server.Move.isTransport = taken.map TransportOp.move)
      (queued : taken ++ queue.map ToServer.op = asked) :
      Stage x asked terminated moves ⟨!terminated, queue, .running, false⟩
        (some (x.served.run moves))
  | stopped {moves : List (Server.Move σ P Req Resp)} {gone : Bool}
      (handed : moves.filter Server.Move.isTransport =
        asked.map TransportOp.move ++ [.release]) :
      Stage x asked true moves ⟨false, [], .stopped, gone⟩ (some (x.served.run moves))

variable {x : Invocation τ σ P Req Resp S} {asked ops : List (TransportOp P)} {terminated : Bool}
  {moves : List (Server.Move σ P Req Resp)} {link : Link P}
  {serving : Option (Serving σ P Req Resp S)}

theorem Stage.isOpen (stage : x.Stage asked terminated moves link.upstream serving) :
    link.isOpen = !terminated := by
  generalize up : link.upstream = upstream at stage
  cases stage <;> exact congrArg Link.Upstream.isOpen up

theorem Stage.of_starting (stage : x.Stage asked terminated moves link.upstream serving)
    (starting : link.serving = .starting) :
    moves = [] ∧ link.serverGone = false ∧ link.toServer.map ToServer.op = asked := by
  generalize up : link.upstream = upstream at stage
  cases stage with
  | starting queued =>
    obtain ⟨-, rfl, -, attached⟩ := Link.Upstream.mk.inj up
    exact ⟨rfl, attached, queued⟩
  | running taken held handed queued =>
    obtain ⟨-, -, pump, -⟩ := Link.Upstream.mk.inj up
    cases starting.symm.trans pump
  | stopped handed =>
    obtain ⟨-, -, pump, -⟩ := Link.Upstream.mk.inj up
    cases starting.symm.trans pump

theorem Stage.of_running (stage : x.Stage asked terminated moves link.upstream serving)
    (running : link.serving = .running) :
    serving = some (x.served.run moves) ∧ (x.served.run moves).held = true ∧
      link.serverGone = false ∧
      ∃ taken : List (TransportOp P),
        moves.filter Server.Move.isTransport = taken.map TransportOp.move ∧
          taken ++ link.toServer.map ToServer.op = asked := by
  generalize up : link.upstream = upstream at stage
  cases stage with
  | running taken held handed queued =>
    obtain ⟨-, rfl, -, attached⟩ := Link.Upstream.mk.inj up
    exact ⟨rfl, held, attached, taken, handed, queued⟩
  | starting queued =>
    obtain ⟨-, -, pump, -⟩ := Link.Upstream.mk.inj up
    cases running.symm.trans pump
  | stopped handed =>
    obtain ⟨-, -, pump, -⟩ := Link.Upstream.mk.inj up
    cases running.symm.trans pump

/-- Whatever the client asks for joins the queue; once the pump has stopped, there is nothing. -/
theorem Stage.request {before after : Client.Call τ Resp}
    (stage : x.Stage asked before.terminated moves link.upstream serving)
    (asks : Asks before after ops) :
    x.Stage (asked ++ ops) after.terminated moves (ops.foldl Loopback.apply link).upstream
      serving := by
  obtain ⟨entries, queued, same⟩ := Link.upstream_requests asks stage.isOpen
  rw [queued]
  generalize link.upstream = upstream at stage
  generalize terminated : before.terminated = atEnd at stage
  cases stage with
  | starting queued => exact .starting (by rw [List.map_append, queued, same])
  | running taken held handed queued =>
    exact .running taken held handed (by rw [List.map_append, ← List.append_assoc, queued, same])
  | stopped handed =>
    obtain ⟨rfl, given⟩ := asks.of_terminated terminated
    obtain rfl := List.map_eq_nil_iff.mp same
    rw [given, List.append_nil]
    exact .stopped handed

theorem unheard {move : Server.Move σ P Req Resp} (own : move.isTransport = false)
    (moves : List (Server.Move σ P Req Resp)) :
    (moves ++ [move]).filter Server.Move.isTransport = moves.filter Server.Move.isTransport := by
  rw [List.filter_append, List.filter_singleton, own, Bool.cond_false, List.append_nil]

/-- The handler, and whoever got hold of something of the call, take nothing. -/
theorem Stage.own {s : Serving σ P Req Resp S}
    (stage : x.Stage asked terminated moves link.upstream (some s))
    {move : Server.Move σ P Req Resp} (own : move.isTransport = false) :
    x.Stage asked terminated (moves ++ [move]) link.upstream (some (s.perform move).1) := by
  generalize link.upstream = upstream at stage ⊢
  cases stage with
  | running taken held handed queued =>
    rw [← Serving.run_concat]
    refine .running taken ?_ ((unheard own _).trans handed) queued
    rw [Serving.run_concat]
    exact (Serving.acts_perform _ own).held.trans held
  | stopped handed =>
    rw [← Serving.run_concat]
    exact .stopped ((unheard own _).trans handed)

/-- The server lets go only after the transport has. -/
theorem Stage.dissolve {s s' : Serving σ P Req Resp S}
    (stage : x.Stage asked terminated moves link.upstream (some s))
    (dissolved : s.dissolve? = some s') :
    x.Stage asked terminated (moves ++ [.dissolve]) link.dropServer.upstream (some s') := by
  have unheld : s.held = false := by
    have unheld := (Option.ite_none_left_eq_some.mp dissolved).1
    simp only [Bool.or_eq_true, not_or, Serving.isHeld] at unheld
    exact Bool.eq_false_iff.mpr unheld.1.1.1.1
  have performed : (s.perform .dissolve).1 = s' := by
    rw [Serving.perform, dissolved, Option.getD_some]
  rw [← performed]
  show x.Stage asked terminated _ { link.upstream with serverGone := true } _
  generalize link.upstream = upstream at stage
  cases stage with
  | running taken held handed queued =>
    rw [held] at unheld
    cases unheld
  | stopped handed =>
    rw [← Serving.run_concat]
    exact .stopped ((unheard rfl _).trans handed)

/-- What the pump takes from the queue is the next that the client asked for. -/
theorem Stage.take (stage : x.Stage asked terminated moves link.upstream serving)
    (running : link.serving = .running) {entry : ToServer P} {rest : List (ToServer P)}
    (next : link.toServer = entry :: rest) :
    x.Stage asked terminated (moves ++ [entry.op.move]) { link with toServer := rest }.upstream
      (some ((x.served.run moves).perform entry.op.move).1) := by
  obtain ⟨-, held, attached, taken, handed, queued⟩ := stage.of_running running
  unfold Link.upstream
  rw [running, attached, stage.isOpen, ← Serving.run_concat]
  refine .running (taken ++ [entry.op]) ?_ ?_ ?_
  · have holds : entry.op.move ≠ (.release : Server.Move σ P Req Resp) := by
      cases entry <;> exact nofun
    rw [Serving.run_concat, Serving.held_perform _ holds]
    exact held
  · have told : (entry.op.move : Server.Move σ P Req Resp).isTransport = true := by
      cases entry <;> rfl
    rw [List.filter_append, handed, List.filter_singleton, told, List.map_append]
    rfl
  · rw [← queued, next, List.append_assoc]
    rfl

/-- A step of the serving pump hands over what comes next, or lets go once there is nothing. -/
theorem Stage.serve {far far' : FarEnd σ P Req Resp S}
    (stage : x.Stage asked terminated moves far.link.upstream far.serving) (aims : x.Aims far)
    (moved : far.serve? = some far') :
    x.Stage asked terminated (moves ++ far.handed) far'.link.upstream far'.serving ∧
      x.Aims far' := by
  unfold FarEnd.serve? at moved
  unfold FarEnd.handed
  cases next : far.link.serve? with
  | none =>
    rw [next] at moved
    cases moved
  | some served =>
    obtain ⟨step, link⟩ := served
    simp only [next, Option.some.injEq] at moved
    subst moved
    cases Link.serves_of_serve? next with
    | dispatch starting =>
      obtain ⟨rfl, attached, queued⟩ := stage.of_starting starting
      have dispatched : ({ far with link := { far.link with serving := .running } } :
          FarEnd σ P Req Resp S).dispatch = { far with
            link := { far.link with serving := .running }, serving := some x.served } := by
        simp only [FarEnd.dispatch, aims.target, aims.compression, aims.path, aims.context]
        rfl
      simp only [dispatched]
      refine ⟨?_, aims.same _ _⟩
      unfold Link.upstream
      rw [attached, stage.isOpen]
      exact .running [] rfl rfl queued
    | part running queue =>
      obtain ⟨found, -⟩ := stage.of_running running
      simp only [FarEnd.onServing, found, FarEnd.respond]
      refine ⟨?_, aims.same _ _⟩
      rw [Link.upstream_acceptRequest, Link.upstream_foldl_respond]
      exact stage.take running queue
    | cancel running queue =>
      obtain ⟨found, -⟩ := stage.of_running running
      simp only [FarEnd.onServing, found, FarEnd.respond]
      refine ⟨?_, aims.same _ _⟩
      rw [Link.upstream_acceptCancel, Link.upstream_foldl_respond]
      exact stage.take running queue
    | release running drained closed =>
      obtain ⟨found, held, attached, taken, handed, queued⟩ := stage.of_running running
      have atEnd : terminated = true := by simpa [closed] using stage.isOpen
      rw [drained, List.map_nil, List.append_nil] at queued
      simp only [FarEnd.onServing, found, FarEnd.respond]
      refine ⟨?_, aims.same _ _⟩
      show x.Stage asked terminated (moves ++ [.release])
        { far.link with serving := .stopped }.upstream (some (x.served.run moves).release)
      have released : (x.served.run moves).release = x.served.run (moves ++ [.release]) :=
        (Serving.run_concat x.served moves .release).symm
      unfold Link.upstream
      rw [released, closed, drained, atEnd]
      exact .stopped (by rw [List.filter_append, handed, queued]; rfl)

theorem Stage.terminated_of_gone (stage : x.Stage asked terminated moves link.upstream serving)
    (gone : link.serverGone = true) : terminated = true := by
  generalize up : link.upstream = upstream at stage
  have same := congrArg Link.Upstream.serverGone up
  cases stage with
  | starting queued => cases gone.symm.trans same
  | running taken held handed queued => cases gone.symm.trans same
  | stopped handed => rfl

/-! ### Both ends -/

/-- What the client knows, what it asked for and what the server has taken belong together. -/
structure Tied (x : Invocation τ σ P Req Resp S) (asked : List (TransportOp P))
    (moves : List (Server.Move σ P Req Resp)) (l : Loopback τ σ P Req Resp S) : Prop where
  setup : l.near.setup = x.setup
  steady : l.near.call.Steady
  closed : l.near.call.closed = asked.any TransportOp.isFinish
  aims : x.Aims l.far
  stage : x.Stage asked l.near.call.terminated moves l.far.link.upstream l.far.serving
  asked : Client.Asked l.near.call.terminated asked

variable {l l' : Loopback τ σ P Req Resp S} {performed : List (Server.Move σ P Req Resp)}

/-- What the client asks for is added to what it asked for. -/
theorem Tied.request (tied : x.Tied asked moves l) {near : Active τ P Req Resp}
    (setup : near.setup = l.near.setup) (advances : l.near.call.Advances near.call ops) :
    x.Tied (asked ++ ops) moves (l.request (near, ops)) where
  setup := setup.trans tied.setup
  steady := advances.steady
  closed := by
    rw [List.any_append, ← tied.closed]
    exact advances.asks.closed
  aims := tied.aims.same _ _
  stage := tied.stage.request advances.asks
  asked := tied.asked.more advances.asks

/-- What happens behind the client leaves the client alone. -/
theorem Tied.onFar (tied : x.Tied asked moves l) {far : FarEnd σ P Req Resp S} (aims : x.Aims far)
    (stage : x.Stage asked l.near.call.terminated performed far.link.upstream far.serving) :
    x.Tied asked performed { l with far } :=
  { tied with aims, stage }

/-- Nor does it matter what happens to the responses. -/
theorem Tied.onLink (tied : x.Tied asked moves l) {link : Link P}
    (same : link.upstream = l.far.link.upstream) :
    x.Tied asked moves { l with far := { l.far with link } } :=
  tied.onFar (tied.aims.same _ _) (same ▸ tied.stage)

theorem Tied.deliver (tied : x.Tied asked moves l) (moved : l.deliver? = some l') :
    x.Tied (asked ++ l.answers) moves l' ∧ l.near.call.Advances l'.near.call l.answers := by
  have plain : l.near.setup.chain = .empty := by rw [tied.setup, x.plain]
  unfold Loopback.deliver? at moved
  unfold Loopback.answers
  cases next : l.far.link.deliver? with
  | none =>
    rw [next] at moved
    cases moved
  | some delivered =>
    obtain ⟨step, link⟩ := delivered
    simp only [next, Option.some.injEq] at moved
    subst moved
    have before := tied.onLink (Link.upstream_of_deliver? next)
    cases step with
    | error =>
      -- The server's side is gone only after it was told of the cancellation.
      have atEnd := tied.stage.terminated_of_gone (Link.serverGone_of_deliver? next)
      have advances := tied.steady.advances plain (.error Link.noStatus : Event P Req)
        fun _ _ => atEnd
      exact ⟨before.request rfl advances, advances⟩
    | part part ticket =>
      have advances := tied.steady.advances plain (.part part : Event P Req) nofun
      have taken : x.Tied _ moves
          (Loopback.request { l with far := { l.far with link } } (l.near.onPart part)) :=
        before.request rfl advances
      refine ⟨taken.onLink (Link.upstream_acceptResponse (fun finish => ?_) ticket), advances⟩
      have atEnd := tied.steady.terminated_of_finish plain finish
      exact taken.stage.isOpen.trans (congrArg (!·) atEnd)

/-- Every step keeps both ends together. -/
theorem Tied.step (tied : x.Tied asked moves l) (step : l.Step ops performed l') :
    x.Tied (asked ++ ops) (moves ++ performed) l' ∧ l.near.call.Advances l'.near.call ops := by
  have plain : l.near.setup.chain = .empty := by rw [tied.setup, x.plain]
  have rested := tied.steady.advances_rest (P := P)
  have stage := tied.stage
  cases step with
  | act acts =>
    rw [List.append_nil]
    have advances := acts.advances plain tied.steady
    exact ⟨tied.request acts.setup advances, advances⟩
  | deliver moved =>
    rw [List.append_nil]
    exact tied.deliver moved
  | serve moved =>
    rw [List.append_nil]
    obtain ⟨stage, aims⟩ := stage.serve tied.aims moved
    exact ⟨tied.onFar aims stage, rested⟩
  | work move serving own =>
    rw [List.append_nil]
    rw [serving] at stage
    refine ⟨tied.onFar (tied.aims.same _ _) ?_, rested⟩
    show x.Stage _ _ _ (List.foldl Link.respond l.far.link _).upstream _
    rw [Link.upstream_foldl_respond]
    exact stage.own own
  | dissolve moved =>
    rw [List.append_nil]
    unfold FarEnd.dissolve? at moved
    cases serving : l.far.serving with
    | none =>
      rw [serving] at moved
      cases moved
    | some s =>
      simp only [serving] at moved stage
      obtain ⟨s', dissolved, rfl⟩ := Option.map_eq_some_iff.mp moved
      exact ⟨tied.onFar (tied.aims.same _ _) (stage.dissolve dissolved), rested⟩

/-- A call starts with both ends together. -/
theorem tied_start (x : Invocation τ σ P Req Resp S) (now : Nat) :
    x.Tied x.opening [] (x.start now) := by
  let call : Client.Call τ Resp := .fresh x.setup.shape x.shared
  have steady : call.Steady := Client.Call.steady_fresh x.setup.shape x.shared
  have advances := steady.advances x.plain
    (.send (Client.Call.opening x.setup x.request) : Event P Req) nofun
  let link : Link P := ({} : Link P).invoke.2
  have fresh : x.Tied [] [] ⟨{ setup := x.setup, call }, { x.farEnd with link }⟩ :=
    ⟨rfl, steady, rfl, ⟨rfl, rfl, rfl, rfl⟩, .starting rfl, .running []⟩
  exact fresh.request rfl advances

/-- Every run keeps both ends together. A call that is terminated keeps its status, and asks for
nothing more. -/
theorem Tied.run (tied : x.Tied asked moves l) (runs : l.Runs ops performed l') :
    x.Tied (asked ++ ops) (moves ++ performed) l' ∧
      (l.near.call.terminated = true → ops = [] ∧ l'.near.call.terminated = true ∧
        l'.near.call.status? = l.near.call.status?) := by
  induction runs generalizing asked moves with
  | refl l =>
    rw [List.append_nil, List.append_nil]
    exact ⟨tied, fun atEnd => ⟨rfl, atEnd, rfl⟩⟩
  | step first rest ih =>
    obtain ⟨mid, advances⟩ := tied.step first
    obtain ⟨last, keeps⟩ := ih mid
    rw [← List.append_assoc, ← List.append_assoc]
    refine ⟨last, fun atEnd => ?_⟩
    obtain ⟨rfl, given⟩ := advances.asks.of_terminated atEnd
    obtain ⟨rfl, still, same⟩ := keeps given
    have resolved := tied.steady.status.trans atEnd
    exact ⟨rfl, still, same.trans (advances.status resolved)⟩

end Invocation

end RemoteCall
