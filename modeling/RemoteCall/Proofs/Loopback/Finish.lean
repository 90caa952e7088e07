import RemoteCall.Proofs.Loopback.Carriage
import RemoteCall.Proofs.Loopback.Sides

/-!
# The end of a response, as the server sees it

A client that takes the end of the response gives up on the transport call while it does so, if
its chain lets the end out. The link is still open then: it closes only after the client has taken
the end. So the cancellation enters the queue, and the server is told that its client has
cancelled a call that is finished (`Loopback.finish_reported`). Otherwise the link closes without
a word, and the server is told nothing.
-/

namespace RemoteCall

open Client (Active Event Intake Setup TransportOp)
open Server (Serving)
open Line (Act Sight)

variable {τ σ P Req Resp S : Type}

namespace Loopback

/-- Whether the end of the response is what the delivering pump has next. -/
def finishes (l : Loopback τ σ P Req Resp S) : Bool :=
  match l.far.link.deliver? with
  | some (.part part _, _) => part.isFinish
  | _ => false

/-- What leaves the client's chain when the client takes what the delivering pump has next. -/
def arrivals (l : Loopback τ σ P Req Resp S) : List (Arrival (ResponsePart Resp)) :=
  match l.far.link.deliver? with
  | some (.part part _, _) => (Event.part part : Event P Req).arrivals l.near.setup l.near.call
  | _ => []

variable {l l' last : Loopback τ σ P Req Resp S}

/-- What the line shows while the client takes the end. -/
theorem trace_finish {part : ResponsePart P} {ticket : Nat} {link : Link P}
    (next : l.far.link.deliver? = some (.part part ticket, link)) (finish : part.isFinish = true) :
    ∃ sights, l.line.trace ([.deliver] ++ (l.answers.map TransportOp.act ++ [.delivered])) =
        sights ++ [.ended] ∧
      .ended ∉ sights ∧ Line.asked sights = l.answers := by
  have shown : l.line.perform .deliver =
      ({ l.line with link, delivering := some (part, ticket) }, [.shown part]) := by
    have still : l.line.link.deliver? = some (.part part ticket, link) := next
    simp only [Line.perform, Line.deliver, show l.line.delivering = none from rfl, still]
  let taken : Line P := { l.line with link, delivering := some (part, ticket) }
  have requests : taken.Carried _ _ _ ([] : List (Server.Move σ P Req Resp)) :=
    .requests taken rfl l.answers
  have ended : (taken.run (l.answers.map TransportOp.act)).trace [.delivered] = [.ended] := by
    rw [requests.run]
    simp [Line.trace, Line.perform, Line.delivered, taken, finish]
  refine ⟨.shown part :: taken.trace (l.answers.map TransportOp.act), ?_, ?_, ?_⟩
  · have first : l.line.trace [.deliver] = [.shown part] := by
      rw [Line.trace, Line.trace, shown]
      rfl
    have then_ : l.line.run [.deliver] = taken := congrArg Prod.fst shown
    rw [Line.trace_append, Line.trace_append, first, then_, ended]
    rfl
  · intro member
    rcases List.mem_cons.mp member with same | later
    · cases same
    · have delivered := Line.delivered_of_ended later
      obtain ⟨op, -, same⟩ := List.mem_map.mp delivered
      cases op <;> cases same
  · exact requests.asked

/-- How the server has fared with an end that the client has taken. The client had `asked` for this
before, and the served call has gone through `moves` before and `later` after that. -/
structure Reports (l : Loopback τ σ P Req Resp S) (asked : List (TransportOp P))
    (served : Serving σ P Req Resp S) (moves later : List (Server.Move σ P Req Resp))
    (last : Loopback τ σ P Req Resp S) : Prop where
  /-- Only a client that has given up has cancelled. -/
  running : l.near.call.terminated = false ↔ .cancel ∉ asked
  /-- The client gives up with the end exactly if what its chain lets out then ends the call. -/
  answered : .cancel ∉ asked → (.cancel ∈ l.answers ↔ l.near.call.intake.EndsWithin l.arrivals)
  /-- An end that the chain lets out does. -/
  passed : .cancel ∉ asked →
    ∀ status trailers, .part (.finish status trailers) ∈ l.arrivals → .cancel ∈ l.answers
  /-- The server is not told of anything as long as the client has not given up. -/
  unsuspecting : .cancel ∉ asked → ∀ e, .error e ∉ moves
  /-- What it is told is that the client has given up, with the end at the latest. -/
  cause : ∀ e, .error e ∈ moves ++ later → e = .cancelled ∧ .cancel ∈ asked ++ l.answers
  /-- It is told once, and nothing is handed to it behind that. -/
  final : ∀ earlier rest, moves ++ later = earlier ++ .error .cancelled :: rest →
    rest.filter Server.Move.isTold = []
  /-- It is told as soon as the pump comes to it. -/
  told : last.far.link.serve? = none → .cancel ∈ asked ++ l.answers →
    .error .cancelled ∈ moves ++ later
  /-- The served call has gone through all of that. -/
  served : last.far.link.serve? = none → last.far.serving = some (served.run (moves ++ later))

theorem next_of_finishes (finishes : l.finishes = true) :
    ∃ part ticket link, l.far.link.deliver? = some (.part part ticket, link) ∧
      part.isFinish = true := by
  unfold Loopback.finishes at finishes
  split at finishes
  · next part ticket link next => exact ⟨part, ticket, link, next, finishes⟩
  · cases finishes

/-- A run in which the client takes an end, as acts on a line. -/
theorem carried_through_finish {setup : Setup τ P Req Resp} {shared : τ} {now : Nat}
    {far : FarEnd σ P Req Resp S} {request : Option Req} (unused : far.link = {})
    {asked more : List (TransportOp P)} {moves later : List (Server.Move σ P Req Resp)}
    (before : (start setup shared now far request).Runs asked moves l)
    (finishes : l.finishes = true) (taken : l.deliver? = some l')
    (after : l'.Runs more later last) :
    ∃ (begun through : List (Act P)) (sights rest : List (Sight P)),
      (Line.fresh far.target.isSome).Carried l.line begun
        (opening setup shared now request ++ asked) moves ∧
      (Line.fresh far.target.isSome).Carried last.line through
        (opening setup shared now request ++ asked ++ l.answers ++ more) (moves ++ later) ∧
      (Line.fresh far.target.isSome : Line P).trace through =
        .invoked :: sights ++ .ended :: rest ∧
      .ended ∉ sights ∧
      Line.asked (.invoked :: sights) = opening setup shared now request ++ asked ++ l.answers := by
  obtain ⟨part, ticket, link, next, finish⟩ := next_of_finishes finishes
  obtain ⟨first, ran⟩ := carried_run before
  obtain ⟨rest, ends⟩ := carried_run after
  have begun := (carried_start setup shared now unused request).trans ran
  have whole := (begun.trans (carried_part next taken)).trans ends
  rw [List.append_nil] at whole
  obtain ⟨sights, shown, unended, answers⟩ := trace_finish next finish
  obtain ⟨earlier, opened⟩ : ∃ earlier, (Line.fresh far.target.isSome : Line P).trace
      (.invoke :: (opening setup shared now request).map TransportOp.act ++ first) =
        .invoked :: earlier := ⟨_, rfl⟩
  have unstopped : .ended ∉ earlier := fun ended => by
    have stopped := (Line.Holds.of_fresh far.target.isSome _).ended
      (opened ▸ List.mem_cons_of_mem _ ended)
    rw [begun.run] at stopped
    cases Link.delivers_of_deliver? next with
    | part running => cases running.symm.trans stopped
  refine ⟨_, _, earlier ++ sights, l'.line.trace rest, begun, whole, ?_, ?_, ?_⟩
  · rw [Line.trace_append, Line.trace_append, opened, begun.run, shown,
      (begun.trans (carried_part next taken)).run]
    simp only [List.cons_append, List.append_assoc, List.nil_append]
  · exact fun ended => (List.mem_append.mp ended).elim unstopped unended
  · have first := begun.asked
    rw [opened] at first
    rw [← List.cons_append, Line.asked_append, first, answers]

/-- The client has given up exactly if it has cancelled. -/
theorem running_iff {setup : Setup τ P Req Resp} {shared : τ} {now : Nat}
    {far : FarEnd σ P Req Resp S} {request : Option Req} (unused : far.link = {})
    {asked : List (TransportOp P)} {moves : List (Server.Move σ P Req Resp)}
    (before : (start setup shared now far request).Runs asked moves l) :
    l.near.call.terminated = false ↔ .cancel ∉ opening setup shared now request ++ asked := by
  have started : (start setup shared now far request).near =
      (Active.start setup shared now (.ok ()) request).1 := by
    unfold start
    rw [unused]
    rfl
  have begun : (opening setup shared now request).countP TransportOp.isCancel + 0 = _ :=
    Active.counts_start setup shared now (.ok ()) request
  have counts := before.counts
  rw [started, ← begun] at counts
  have alive : l.near.call.terminated = false ↔ l.near.call.terminated.toNat = 0 := by
    cases l.near.call.terminated <;> decide
  rw [alive, Active.cancel_mem_iff, List.countP_append]
  omega

/-- A client that has not given up does so with the end if what its chain lets out then ends the
call. -/
theorem answers_iff (finishes : l.finishes = true) (running : l.near.call.terminated = false) :
    .cancel ∈ l.answers ↔ l.near.call.intake.EndsWithin l.arrivals := by
  obtain ⟨part, ticket, link, next, finish⟩ := next_of_finishes finishes
  have answers :
      l.answers = ((Event.part part : Event P Req).pass l.near.setup l.near.call).ops := by
    rw [Loopback.answers, next]
    rfl
  have arrivals :
      l.arrivals = (Event.part part : Event P Req).arrivals l.near.setup l.near.call := by
    rw [Loopback.arrivals, next]
  have decodes : (Event.part part : Event P Req).givesUp l.near.setup l.near.call = false := by
    cases part with
    | headers m => cases finish
    | message payload flags => cases finish
    | finish status trailers => rfl
  have counts := Event.counts_pass l.near.setup (.part part : Event P Req) l.near.call
  have terminated := Event.terminated_pass l.near.setup (.part part : Event P Req) l.near.call
  unfold Event.Ends at terminated
  rw [running, decodes] at terminated
  simp only [Bool.false_eq_true, false_or] at terminated
  rw [answers, arrivals, ← terminated, Active.cancel_mem_iff]
  unfold Client.Pass.Counts at counts
  rw [running, Bool.toNat_false, Nat.add_zero] at counts
  rw [counts]
  cases ((Event.part part : Event P Req).pass l.near.setup l.near.call).call.terminated <;> decide

/-- Whatever happens until the end of the response reaches the client, and whatever happens then:
the server is told of a cancellation if the client has given up before, or if its chain lets the
end out, and otherwise of nothing. -/
theorem finish_reported {setup : Setup τ P Req Resp} {shared : τ} {now : Nat}
    {far : FarEnd σ P Req Resp S} {target : Target σ P Req Resp S} {request : Option Req}
    (unused : far.link = {}) (unserved : far.serving = none) (found : far.target = some target)
    {asked more : List (TransportOp P)} {moves later : List (Server.Move σ P Req Resp)}
    {l l' last : Loopback τ σ P Req Resp S}
    (before : (start setup shared now far request).Runs asked moves l)
    (finishes : l.finishes = true) (taken : l.deliver? = some l')
    (after : l'.Runs more later last) :
    l.Reports (opening setup shared now request ++ asked)
      (.fresh target.method target.handler far.compression far.path far.shared)
      moves later last := by
  obtain ⟨begun, through, sights, rest, first, whole, trace, unended, asks⟩ :=
    carried_through_finish unused before finishes taken after
  have sends := whole.carries
  rw [trace] at sends
  -- What has entered is what was sent, and a cancellation if one was asked for before the end.
  have begins : Line.phase (.invoked :: sights) ≠ .fresh := by
    show sights.foldl Line.Phase.next .opened ≠ .fresh
    exact Line.phase_ne_fresh (by decide) sights
  have entered : Line.entered (.invoked :: sights ++ .ended :: rest) =
      Line.along Line.Phase.entry? .opened sights := Line.entered_until_ended begins rest
  have running := running_iff unused before
  refine ⟨running, fun alive => answers_iff finishes (running.mpr alive),
    fun alive status trailers ends => ?_, fun alive e told => ?_,
    fun e told => ?_, fun earlier rest split => ?_, fun still cancel => ?_, fun still => ?_⟩
  · have closed := before.closed (closed_start setup shared now unused request)
    have open_ : l.near.call.order ≠ .ended := fun ended => by
      cases (running.mpr alive).symm.trans (closed ended)
    exact (answers_iff finishes (running.mpr alive)).mpr (Intake.endsWithin_of_finish open_ ends)
  · obtain ⟨-, ticket, took⟩ := first.cancel_of_error told
    have entered := first.carries.fifo.subset took
    have cancel := Line.asked_of_cancelled (Line.cancelled_of_entry entered)
    rw [first.asked] at cancel
    exact alive cancel
  · obtain ⟨same, ticket, took⟩ := whole.cancel_of_error told
    rw [trace] at took
    have enters := sends.fifo.subset took
    rw [entered] at enters
    have cancelled := List.mem_cons_of_mem .invoked (Line.cancelled_of_entry enters)
    have cancel := Line.asked_of_cancelled cancelled
    rw [asks] at cancel
    exact ⟨same, cancel⟩
  · exact whole.nothing_behind whole.carries split
  · rw [← asks] at cancel
    obtain ⟨ticket, cancelled⟩ := Line.cancelled_of_asked cancel
    obtain ⟨number, enters⟩ := Line.entry_of_cancelled unended (by simpa using cancelled)
    have took := sends.drained ⟨rfl, still⟩
    rw [entered, ← trace] at took
    exact whole.error_of_cancel (took ▸ enters)
  · have attends := before.attends (attends_start setup shared now unused unserved found request)
    have taken := (Step.deliver taken).attends attends
    rw [List.append_nil] at taken
    exact (after.attends taken).serving fun starting => by simp [Link.serve?, starting] at still

end Loopback

/-- Whether the serving pump has a cancellation next. -/
def FarEnd.cancels (far : FarEnd σ P Req Resp S) : Bool :=
  match far.link.serve? with
  | some (.cancel _, _) => true
  | _ => false

theorem FarEnd.handed_of_cancels {far : FarEnd σ P Req Resp S} (cancels : far.cancels = true) :
    far.handed = [.error .cancelled] := by
  unfold FarEnd.cancels at cancels
  unfold FarEnd.handed
  split at cancels
  · next ticket link next => rw [next]
  · cases cancels

/-! ### A route that takes note of failures -/

namespace Watch

open Client (greeting)

/-- Takes note of every failure, and passes it on. -/
def watcher : Interceptor (List CallError) (ResponsePart String) (RequestPart String) where
  failure _ e := .note (· ++ [e]) (.fail e .done)

/-- Sends its text back. -/
def handler : Server.Handler (List CallError) String String (Option String) where
  start _ text := text
  wish text := .finish (.ok text)

def target : Target (List CallError) String String String (Option String) where
  method := {
    shape := .unary
    chain := { interceptors := [watcher] }
    requests := .verbatim
    responses := .verbatim }
  handler := handler

def farEnd : FarEnd (List CallError) String String String (Option String) where
  path := greeting.path
  target := some target
  compression := true
  shared := []

def begun : Loopback Unit (List CallError) String String String (Option String) :=
  .start greeting () 0 farEnd (some "hello")

/-- The response is there, up to its end. -/
def answered : Loopback Unit (List CallError) String String String (Option String) :=
  settleWithin (Loopback.move? · 0) 10 begun

theorem moves_answered : answered.deliver?.isSome = true := by decide +kernel

/-- The client has taken the end. -/
def finished : Loopback Unit (List CallError) String String String (Option String) :=
  answered.deliver?.get moves_answered

theorem moves_finished : finished.far.serve?.isSome = true := by decide +kernel

/-- The server has taken what the client has sent last. -/
def told : Loopback Unit (List CallError) String String String (Option String) :=
  { finished with far := finished.far.serve?.get moves_finished }

theorem runs_answered : ∃ asked moves, begun.Runs asked moves answered :=
  Loopback.runs_settleWithin 0 10 begun

theorem finishes_answered : answered.finishes = true := by decide +kernel

theorem deliver_answered : answered.deliver? = some finished :=
  (Option.some_get moves_answered).symm

/-- The first that the server hears after the end is a cancellation. -/
theorem runs_told : finished.Runs [] [.error .cancelled] told := by
  have handed : finished.far.handed = [.error .cancelled] :=
    FarEnd.handed_of_cancels (by decide +kernel)
  have step : finished.Step [] finished.far.handed told :=
    .serve (Option.some_get moves_finished).symm
  rw [handed] at step
  exact .step step (.refl told)

/-- The client of this route has its whole response when the server is told that it cancelled. -/
theorem finish_reported_as_cancelled : ∃ asked moves,
    answered.Reports (Loopback.opening greeting () 0 (some "hello") ++ asked)
      (.fresh target.method target.handler true greeting.path []) moves [.error .cancelled]
      told := by
  obtain ⟨asked, moves, before⟩ := runs_answered
  exact ⟨asked, moves, Loopback.finish_reported rfl rfl rfl before finishes_answered
    deliver_answered runs_told⟩

/-- The end reaches a client that has not given up, with success, and then the interceptor of the
route sees a cancellation. -/
theorem finished_call_cancelled :
    (∃ asked moves, begun.Runs asked moves answered) ∧
      answered.near.call.terminated = false ∧ answered.finishes = true ∧
      answered.deliver? = some finished ∧ finished.near.call.status? = some .success ∧
      finished.Runs [] [.error .cancelled] told ∧
      told.far.serving.map (·.call.context.shared) = some [.cancelled] :=
  ⟨runs_answered, by decide +kernel, finishes_answered, deliver_answered, by decide +kernel,
    runs_told, by decide +kernel⟩

end Watch

end RemoteCall
