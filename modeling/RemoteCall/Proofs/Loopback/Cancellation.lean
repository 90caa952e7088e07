import Mathlib.Data.List.Basic
import RemoteCall.Proofs.Loopback.Invocation
import RemoteCall.Proofs.Loopback.Progress
import RemoteCall.Proofs.Loopback.Transparency

/-!
# A cancellation reaches both sides

Wherever in a run the client gives up, everything it sent before is handed to the server, then the
failure, and then nothing; the server falls silent, and its handler comes to an end
(`Invocation.cancellation_reaches_both_sides`).
-/

namespace RemoteCall

open Client (Active Event TransportOp)
open Server (Serving)

variable {τ σ P Req Resp S : Type}

namespace Invocation

variable {x : Invocation τ σ P Req Resp S} {asked : List (TransportOp P)} {terminated : Bool}
  {moves : List (Server.Move σ P Req Resp)} {link : Link P}
  {serving : Option (Serving σ P Req Resp S)} {l : Loopback τ σ P Req Resp S}

/-- What the transport told the server, what is still to come, and at last the release make up
what the client asked for. -/
theorem Stage.told (stage : x.Stage asked terminated moves link.upstream serving) :
    ∃ coming after : List (Server.Move σ P Req Resp),
      moves.filter Server.Move.isTransport ++ coming = asked.map TransportOp.move ++ after ∧
        ∀ move ∈ after, move = .release := by
  generalize link.upstream = upstream at stage
  cases stage with
  | starting queued => exact ⟨asked.map TransportOp.move, [], (List.append_nil _).symm, nofun⟩
  | @running _ _ queue taken held handed queued =>
    refine ⟨(queue.map ToServer.op).map TransportOp.move, [], ?_, nofun⟩
    rw [handed, ← List.map_append, queued, List.append_nil]
  | stopped handed =>
    exact ⟨[], [.release], (List.append_nil _).trans handed, fun move => List.mem_singleton.mp⟩

/-- Behind the failure there is at most the release. -/
theorem Tied.release_of_later (tied : x.Tied asked moves l) (atEnd : l.near.call.terminated = true)
    {earlier later : List (Server.Move σ P Req Resp)}
    (split : moves = earlier ++ .error .cancelled :: later) {move : Server.Move σ P Req Resp}
    (member : move ∈ later) (transport : move.isTransport = true) : move = .release := by
  obtain ⟨parts, rfl⟩ := tied.asked.of_terminated atEnd
  obtain ⟨coming, after, told, releases⟩ := tied.stage.told
  rw [split, List.filter_append, List.filter_cons_of_pos rfl, List.map_append,
    List.append_assoc, List.append_assoc] at told
  have unsaid : (.error .cancelled : Server.Move σ P Req Resp) ∉
      (parts.map TransportOp.send).map TransportOp.move := by
    simp [TransportOp.move]
  have unreleased : (.error .cancelled : Server.Move σ P Req Resp) ∉ after := by
    intro member
    cases releases _ member
  obtain ⟨-, -, rest⟩ := (List.append_cons_inj_of_notMem unsaid unreleased).mp told.symm
  refine releases move ?_
  rw [rest]
  exact List.mem_append_left _ (List.mem_filter.mpr ⟨member, transport⟩)

/-- The server has been told everything, and has come to its end. -/
structure Cleared (x : Invocation τ σ P Req Resp S) (asked : List (TransportOp P))
    (moves : List (Server.Move σ P Req Resp)) (l : Loopback τ σ P Req Resp S) : Prop where
  /-- All that was sent is handed over in order, then the failure, and then the call is let go. -/
  told : moves.filter Server.Move.isTransport =
    (asked.filterMap TransportOp.part?).map .receive ++ [.error .cancelled, .release]
  served : l.far.serving = some (x.served.run moves)
  cancelled : (x.served.run moves).isCancelled = true
  /-- The handler has returned or was dropped. -/
  dropped : (x.served.run moves).task.isAlive = false

/-- The client gave up after it had asked this of the link, with this status. -/
structure CutOff (x : Invocation τ σ P Req Resp S) (status : Status) (asked : List (TransportOp P))
    (moves : List (Server.Move σ P Req Resp)) (l : Loopback τ σ P Req Resp S) : Prop where
  status : l.near.call.status? = some status
  /-- Whatever is sent now is refused. -/
  refused : ∀ parts ≠ [], (l.near.enqueue parts).1 =
    .error (if asked.any TransportOp.isFinish then .streamAlreadyClosed else .cancelled)
  /-- Once the server knows, it says nothing more, whatever its interceptors are. -/
  silent : ∀ earlier later, moves = earlier ++ .error .cancelled :: later →
    (x.served.run (earlier ++ [.error .cancelled])).outputs later = []
  /-- Interceptors that only pass the failure on do not even say anything about it. -/
  mute : x.target.method.chain.OnlyFails →
    ∀ earlier later, moves = earlier ++ .error .cancelled :: later →
      (x.served.run earlier).outputs (.error .cancelled :: later) = []
  /-- This is what is left when nothing moves any more. -/
  cleared : ∀ now, l.move? now = none → x.Cleared asked moves l

/-- Once the server knows, its call is lost and says nothing. -/
theorem Tied.lost (tied : x.Tied asked moves l) (atEnd : l.near.call.terminated = true)
    {earlier later : List (Server.Move σ P Req Resp)}
    (split : moves = earlier ++ .error .cancelled :: later) :
    (x.served.run moves).call.IsLost ∧
      (x.served.run (earlier ++ [.error .cancelled])).outputs later = [] := by
  have told : (x.served.run (earlier ++ [.error .cancelled])).call.IsLost := by
    rw [Serving.run_concat]
    exact Server.Call.isLost_receiveError _ _ _
  have quiet := Serving.isLost_run told fun move member => tied.release_of_later atEnd split member
  rw [split, List.append_cons, Serving.run_append]
  exact quiet

/-- A pump that has nothing left to do for a call that is terminated has let go. -/
theorem Stage.of_still (stage : x.Stage asked terminated moves link.upstream serving)
    (closed : link.isOpen = false) (still : link.serve? = none) :
    moves.filter Server.Move.isTransport = asked.map TransportOp.move ++ [.release] ∧
      serving = some (x.served.run moves) := by
  have pump := Link.stopped_of_still closed still
  generalize up : link.upstream = upstream at stage
  cases stage with
  | starting queued =>
    obtain ⟨-, -, starting, -⟩ := Link.Upstream.mk.inj up
    simp [starting] at pump
  | running taken held handed queued =>
    obtain ⟨-, -, running, -⟩ := Link.Upstream.mk.inj up
    simp [running] at pump
  | stopped handed => exact ⟨handed, rfl⟩

theorem Tied.cleared (tied : x.Tied asked moves l) (atEnd : l.near.call.terminated = true)
    {now : Nat} (still : l.move? now = none) : x.Cleared asked moves l := by
  obtain ⟨unserved, rested, -⟩ := Loopback.still still
  have nothing : l.far.link.serve? = none := by
    cases next : l.far.link.serve? with
    | none => rfl
    | some served => simp [FarEnd.serve?, next] at unserved
  have closed : l.far.link.isOpen = false := tied.stage.isOpen.trans (congrArg (!·) atEnd)
  obtain ⟨handed, found⟩ := tied.stage.of_still closed nothing
  obtain ⟨parts, rfl⟩ := tied.asked.of_terminated atEnd
  have told : (.error .cancelled : Server.Move σ P Req Resp) ∈ moves := by
    have member : (.error .cancelled : Server.Move σ P Req Resp) ∈
        moves.filter Server.Move.isTransport := by
      rw [handed]
      simp [TransportOp.move]
    exact List.mem_of_mem_filter member
  obtain ⟨earlier, later, split⟩ := List.append_of_mem told
  have lost := (tied.lost atEnd split).1
  simp only [FarEnd.moveTask?, found, Option.map_eq_none_iff] at rested
  refine ⟨?_, found, lost.cancelled, Serving.isAlive_of_still lost.cancelled rested⟩
  rw [handed]
  have sent : (parts.map TransportOp.send).filterMap TransportOp.part? = parts := by
    rw [List.filterMap_map]
    exact List.filterMap_some
  rw [List.filterMap_append, sent, List.map_append, List.append_assoc, List.map_map]
  simp only [List.filterMap_cons, TransportOp.part?, List.filterMap_nil, List.append_nil]
  rfl

/-- Wherever the client gives up, and whatever happens then: the client has its status and asks for
nothing more, and what it sent before goes to the server, which then comes to its end. -/
theorem cancellation_reaches_both_sides (x : Invocation τ σ P Req Resp S) {started : Nat}
    {cause : CallError} {asked ops more : List (TransportOp P)}
    {moves later : List (Server.Move σ P Req Resp)} {l l' last : Loopback τ σ P Req Resp S}
    (before : (x.start started).Runs asked moves l) (stops : l.Stops cause ops l')
    (after : l'.Runs more later last) :
    more = [] ∧ x.CutOff (l.near.call.status?.getD cause.toStatus) (x.opening ++ asked)
      (moves ++ later) last := by
  obtain ⟨tied, -⟩ := (x.tied_start started).run before
  obtain ⟨given, status⟩ := stops.terminated (by rw [tied.setup, x.plain]) tied.steady
  obtain ⟨stopped, advances⟩ := tied.step stops.step
  obtain ⟨unsent, unfinished⟩ := advances.asks.of_stopped given
  obtain ⟨reached, keeps⟩ := stopped.run after
  obtain ⟨rfl, atEnd, same⟩ := keeps given
  rw [List.nil_append, List.append_nil, List.append_nil] at reached
  refine ⟨rfl, same.trans status, ?_, ?_, ?_, ?_⟩
  · intro parts some
    have refused := Client.Call.send_of_terminated last.near.setup atEnd some
    rw [reached.closed, List.any_append, unfinished, Bool.or_false] at refused
    exact refused
  · exact fun earlier rest split => (reached.lost atEnd split).2
  · intro only earlier rest split
    have told := (reached.lost atEnd split).2
    rw [Serving.run_concat] at told
    rw [Serving.outputs, told, List.append_nil]
    have method := (Serving.follows_run x.served earlier).method
    exact Server.Call.parts_receiveError (by rwa [method]) .cancelled _
  · intro now still
    have cleared := reached.cleared atEnd still
    have told := cleared.told
    rw [List.filterMap_append, unsent, List.append_nil] at told
    exact { cleared with told }

end Invocation

/-! ### An echo that is cancelled -/

namespace Echo

/-- A call to the echo that sends its texts as it goes. -/
def invocation : Invocation Unit Unit String String String Progress where
  setup := { path := "/echo.Echo/Chat", shape := .bidirectional, requests := .verbatim,
             responses := .verbatim }
  request := none
  shared := ()
  target := { method := { shape := .bidirectional, requests := .verbatim, responses := .verbatim }
              handler := handler }
  compression := true
  context := ()
  plain := rfl

/-- The call to the echo goes on as far as it can. -/
def settle (l : Loopback Unit Unit String String String Progress) :
    Loopback Unit Unit String String String Progress :=
  settleWithin (Loopback.move? · 0) 50 l

/-- The client sends a text. -/
def say (text : String) (l : Loopback Unit Unit String String String Progress) :
    Loopback Unit Unit String String String Progress :=
  l.request (l.near.submit [.message text {}])

/-- The echo has answered one text, and the next is on its way. -/
def midway : Loopback Unit Unit String String String Progress :=
  say "again" (settle (say "hello" (settle (invocation.start 0))))

/-- The client cancels before anything else happens. -/
def cancelled : Loopback Unit Unit String String String Progress := midway.cancel

theorem runs_settle (l : Loopback Unit Unit String String String Progress) :
    ∃ asked moves, l.Runs asked moves (settle l) :=
  Loopback.runs_settleWithin 0 50 l

theorem runs_say (text : String) (l : Loopback Unit Unit String String String Progress) :
    ∃ asked moves, l.Runs asked moves (say text l) := by
  have sends : l.near.Acts (l.near.submit [.message text {}]) :=
    .pass (.event (.send [.message text {}]) rfl) rfl rfl
  exact ⟨_, _, .step (.act sends) (.refl _)⟩

theorem runs_midway : ∃ asked moves, (invocation.start 0).Runs asked moves midway := by
  obtain ⟨_, _, opened⟩ := runs_settle (invocation.start 0)
  obtain ⟨_, _, said⟩ := runs_say "hello" (settle (invocation.start 0))
  obtain ⟨_, _, answered⟩ := runs_settle (say "hello" (settle (invocation.start 0)))
  obtain ⟨_, _, again⟩ := runs_say "again" (settle (say "hello" (settle (invocation.start 0))))
  exact ⟨_, _, opened.trans (said.trans (answered.trans again))⟩

theorem still_cancelled : (settle cancelled).move? 0 = none :=
  Option.isNone_iff_eq_none.mp (by decide +kernel)

/-- The text that was on its way is still handed over, and the echo ends. -/
theorem cancelled_midway : ∃ asked moves,
    invocation.CutOff CallError.cancelled.toStatus asked moves (settle cancelled) ∧
      invocation.Cleared asked moves (settle cancelled) := by
  obtain ⟨asked, moves, before⟩ := runs_midway
  obtain ⟨more, later, after⟩ := runs_settle cancelled
  have unknown : midway.near.call.status? = none :=
    Option.isNone_iff_eq_none.mp (by decide +kernel)
  obtain ⟨-, cutOff⟩ :=
    Invocation.cancellation_reaches_both_sides invocation before midway.stops_cancel after
  rw [unknown] at cutOff
  exact ⟨_, _, cutOff, cutOff.cleared 0 still_cancelled⟩

end Echo

end RemoteCall
