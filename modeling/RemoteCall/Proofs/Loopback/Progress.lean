import RemoteCall.Proofs.Loopback.Closing
import RemoteCall.Proofs.Loopback.Live

/-!
# Conversations go on until they are over

Each move leaves fewer moves than there were before: those of the handler are bounded by its
direct run, and all others use up what was sent (`Underway`). So the parties come to rest in
whatever order they move (`Reaches.acc_move`); and as long as the end of the response has not
reached the client, something can still move (`Live.progress`).
-/

namespace RemoteCall

open Client (Active)
open Server (Story)

variable {τ σ P Req Resp S : Type}

/-! ### When nothing moves -/

/-- When nothing moves, no part of the system can. -/
theorem Loopback.still {loop : Loopback τ σ P Req Resp S} {now : Nat}
    (still : loop.move? now = none) :
    loop.far.serve? = none ∧ loop.far.moveTask? now = none ∧ loop.deliver? = none ∧
      loop.moveErrand? = none := by
  have free : loop.far.isPolled = false := by
    cases polled : loop.far.isPolled with
    | false => rfl
    | true =>
      have moves := FarEnd.isSome_moveTask?_of_isPolled polled now
      have stuck : loop.far.moveTask? now = none := by
        simpa [move?, moveFar?, FarEnd.move?, polled] using still
      rw [stuck] at moves
      cases moves
  have all : loop.moveFar? now = none ∧ loop.deliver? = none ∧ loop.moveErrand? = none ∧
      loop.expire? now = none ∧ loop.dissolve? = none := by
    simpa [move?, free] using still
  have far : loop.far.serve? = none ∧ loop.far.moveTask? now = none ∧
      loop.far.moveErrand? = none ∧ loop.far.dissolve? = none := by
    simpa [moveFar?, FarEnd.move?, free] using all.1
  exact ⟨far.1, far.2.1, all.2.1, all.2.2.1⟩

/-- Once every receipt has its outcome, the wait for all is over. -/
theorem Receipt.isSome_awaitAll {signals : Nat → Signal} {batch : List Receipt}
    (atEnd : ∀ r ∈ batch, (r.outcome? signals).isSome = true) :
    (awaitAll signals batch).isSome = true := by
  induction batch with
  | nil => rfl
  | cons r rest ih =>
    obtain ⟨outcome, known⟩ := Option.isSome_iff_exists.mp (atEnd r List.mem_cons_self)
    unfold awaitAll
    rw [known]
    cases outcome with
    | error e => rfl
    | ok u => exact ih fun r member => atEnd r (List.mem_cons_of_mem _ member)

/-- Without parts on their way to the server, every acceptance on the client's side is known. -/
theorem FarEnd.isSome_outcome? {far : FarEnd σ P Req Resp S} (flows : far.link.Flows)
    (empty : far.link.toServer = []) {ticket : Nat}
    (below : ticket < far.link.requestSignals.length) :
    (far.requestSignals ticket).outcome?.isSome = true := by
  have some := List.getElem?_eq_getElem below
  unfold requestSignals
  rw [some, Option.getD_some]
  cases signal : far.link.requestSignals[ticket] with
  | settled outcome => rfl
  | dropped => rfl
  | waiting =>
    rw [signal] at some
    obtain ⟨part, member⟩ := flows.requests ticket some
    rw [empty] at member
    cases member

/-- Without parts on their way to the client, every part of the server is accepted. -/
theorem FarEnd.accepted {far : FarEnd σ P Req Resp S} (flows : far.link.Flows)
    (empty : far.link.toClient = []) {ticket : Nat}
    (below : ticket < far.link.responseSignals.length) :
    far.responseSignals ticket = .settled (.ok ()) := by
  unfold responseSignals
  rcases flows.responses ticket below with accepted | ⟨-, part, member⟩
  · rw [accepted]
    rfl
  · rw [empty] at member
    cases member

namespace Exchange

variable {x : Exchange τ σ P Req Resp S} {story : Story Req Resp}
  {c : Conversation τ σ P Req Resp S}

/-- A live conversation goes on. -/
theorem Live.progress {moves : Nat} (live : x.Live story c moves) {now : Nat} : ¬c.Quiet now := by
  rintro ⟨still, waiting⟩
  obtain ⟨unserved, unmoved, undelivered, stuck⟩ := Loopback.still still
  obtain ⟨out, back, future, left, effort, near, waits, call, task, proceeds, -⟩ := live
  obtain ⟨flows, arrives, returns, carries, listens, ⟨state, sent, attends⟩, seen⟩ := proceeds
  obtain ⟨active, running, script, requests, issues, issued, hears⟩ := listens
  have nothing_served : c.loop.far.link.serve? = none := by
    cases next : c.loop.far.link.serve? with
    | none => rfl
    | some taken => simp [FarEnd.serve?, next] at unserved
  have serving : c.loop.far.serving = some (x.service.serving call task) ∧
      c.loop.far.link.serving = .running := by
    rcases state with served | ⟨-, starting, -⟩
    · exact served
    · simp [Link.serve?, starting] at nothing_served
  have empty_out : c.loop.far.link.toServer = [] := by
    cases queue : c.loop.far.link.toServer with
    | nil => rfl
    | cons entry rest => cases entry <;> simp [Link.serve?, serving.2, queue] at nothing_served
  have empty_back : c.loop.far.link.toClient = [] := by
    cases queue : c.loop.far.link.toClient with
    | nil => rfl
    | cons entry rest =>
      simp [Loopback.deliver?, Link.deliver?, flows.delivering, queue] at undelivered
  -- Whatever the client waits for was in the queue to the server, which is empty.
  have no_waits : waits = [] := by
    cases same : waits with
    | nil => rfl
    | cons batch rest =>
      have member : batch ∈ waits := same ▸ List.mem_cons_self
      obtain ⟨receipts, rfl, tickets⟩ := issued batch member
      have atEnd : ∀ r ∈ receipts, (r.outcome? c.loop.far.requestSignals).isSome = true := by
        intro r member
        obtain ⟨t, below, rfl⟩ := tickets r member
        exact FarEnd.isSome_outcome? flows empty_out (issues ▸ below)
      have moves : ((x.setup.active near waits).moveErrand? c.loop.far.requestSignals
          (c.loop.far.cancelSignal 0)).isSome = true :=
        Active.isSome_moveErrand?_active member fun _ same =>
          Except.ok.inj same ▸ Receipt.isSome_awaitAll atEnd
      rw [← active] at moves
      rw [Loopback.moveErrand?, Option.map_eq_none_iff] at stuck
      rw [stuck] at moves
      cases moves
  have all_sent : c.unsent = [] := by
    rcases waiting with done | errands
    · exact done
    · rw [active, no_waits] at errands
      exact absurd rfl errands
  rw [empty_out] at arrives
  rw [empty_back] at returns
  cases arrives
  cases returns
  -- The client has not heard the end, so the service has yet to emit it, with all it needs there.
  have unfinished : future ≠ [] := by
    rintro rfl
    generalize none : ([] ++ [] : List (ResponsePart Resp)) = coming at hears
    generalize near.intake = intake at hears
    cases hears <;> simp [Story.parts] at none
  rw [all_sent] at attends
  have moves := attends.isSome_moveTask? unfinished now
    (fun t below => FarEnd.accepted flows empty_back (sent ▸ below))
  simp only [FarEnd.moveTask?, serving.1, Option.map_eq_none_iff] at unmoved
  rw [unmoved] at moves
  cases moves

/-! ### Every step -/

/-- A conversation is live or over, and there are at most `moves` more. -/
def Underway (x : Exchange τ σ P Req Resp S) (story : Story Req Resp)
    (c : Conversation τ σ P Req Resp S) (moves : Nat) : Prop :=
  x.Live story c moves ∨ x.Over story c ∧ c.backlog ≤ moves

theorem Live.move {moves : Nat} (live : x.Live story c moves) (fits : story.Fits x.setup.shape)
    {c' : Conversation τ σ P Req Resp S} (move : c.Move c') :
    ∃ fewer < moves, x.Underway story c' fewer := by
  have stays : (∃ fewer < moves, x.Live story c' fewer) →
      ∃ fewer < moves, x.Underway story c' fewer := by
    rintro ⟨fewer, less, live⟩
    exact ⟨fewer, less, Or.inl live⟩
  have still := live.still
  cases move with
  | submit next some => exact stays (live.submit next some)
  | serve moved => exact stays (live.serve moved)
  | task moved => exact stays (live.task moved)
  | nearErrand moved => exact stays (live.nearErrand moved)
  | deliver moved =>
    rcases live.deliver fits moved with live | ⟨ended, less⟩
    · exact stays live
    · exact ⟨_, less, Or.inr ⟨ended, Nat.le_refl _⟩⟩
  | farErrand moved => cases (still 0).1.symm.trans moved
  | farDissolve moved => cases (still 0).2.1.symm.trans moved
  | @expire now loop moved => cases (still now).2.2.1.symm.trans moved
  | nearDissolve moved => cases (still 0).2.2.2.1.symm.trans moved

theorem Over.move (ended : x.Over story c) {c' : Conversation τ σ P Req Resp S}
    (move : c.Move c') : x.Over story c' ∧ c'.backlog < c.backlog := by
  have still := ended.still
  cases move with
  | submit next some => exact ended.submit next some
  | serve moved => exact ended.serve moved
  | farDissolve moved => exact ended.farDissolve moved
  | nearErrand moved => exact ended.nearErrand moved
  | @task now far moved => cases (still now).1.symm.trans moved
  | farErrand moved => cases (still 0).2.1.symm.trans moved
  | deliver moved => cases (still 0).2.2.1.symm.trans moved
  | @expire now loop moved => cases (still now).2.2.2.1.symm.trans moved
  | nearDissolve moved => cases (still 0).2.2.2.2.1.symm.trans moved

theorem Underway.move {moves : Nat} (underway : x.Underway story c moves)
    (fits : story.Fits x.setup.shape) {c' : Conversation τ σ P Req Resp S} (move : c.Move c') :
    ∃ fewer < moves, x.Underway story c' fewer := by
  rcases underway with live | ⟨ended, bound⟩
  · exact live.move fits move
  · obtain ⟨ended, less⟩ := ended.move move
    exact ⟨_, Nat.lt_of_lt_of_le less bound, Or.inr ⟨ended, Nat.le_refl _⟩⟩

/-- Polls and the clock leave as many moves as before. -/
theorem Underway.step {moves : Nat} (underway : x.Underway story c moves)
    (fits : story.Fits x.setup.shape) {c' : Conversation τ σ P Req Resp S} (step : c.Step c') :
    ∃ fewer ≤ moves, x.Underway story c' fewer := by
  cases step with
  | move move =>
    obtain ⟨fewer, less, underway⟩ := underway.move fits move
    exact ⟨fewer, Nat.le_of_lt less, underway⟩
  | pull =>
    refine ⟨moves, Nat.le_refl _, ?_⟩
    rcases underway with live | ⟨ended, bound⟩
    · exact Or.inl live.pull
    · obtain ⟨ended, same⟩ := ended.pull
      exact Or.inr ⟨ended, same ▸ bound⟩
  | tick now =>
    refine ⟨moves, Nat.le_refl _, ?_⟩
    have same : c.loop.tick now = c.loop := by
      rcases underway with live | ⟨ended, -⟩
      · exact (live.still now).2.2.2.2
      · exact (ended.still now).2.2.2.2.2
    rw [same]
    exact underway

section Run

variable (tells : x.Tells story)
  (requests : ∀ message ∈ x.request.messages, x.CarriesRequest message)
  (responses : ∀ message ∈ story.messages, x.CarriesResponse message)

include tells

theorem Tells.fits : story.Fits x.setup.shape := by
  rw [← x.shape]
  exact Server.Handler.Runs.fits tells

include requests responses

/-- Every conversation is live or over. -/
theorem Reaches.underway (reached : x.Reaches c) : ∃ moves, x.Underway story c moves := by
  induction reached with
  | start now =>
    obtain ⟨moves, live⟩ := live_start tells requests responses now
    exact ⟨moves, Or.inl live⟩
  | step reached step ih =>
    obtain ⟨moves, underway⟩ := ih
    obtain ⟨fewer, -, underway⟩ := underway.step (Tells.fits tells) step
    exact ⟨fewer, underway⟩

/-- In whatever order the parties move, they come to rest. -/
theorem Reaches.acc_move (reached : x.Reaches c) :
    Acc (fun after before : Conversation τ σ P Req Resp S => before.Move after) c := by
  obtain ⟨moves, underway⟩ := reached.underway tells requests responses
  induction moves using Nat.strongRecOn generalizing c with
  | ind moves ih =>
    refine ⟨c, fun after move => ?_⟩
    obtain ⟨fewer, less, later⟩ := underway.move (Tells.fits tells) move
    exact ih fewer less (reached.step (.move move)) later

/-- Once the client has sent everything, the moves of the loopback lead to a quiet conversation. -/
theorem Reaches.comes_to_rest (reached : x.Reaches c) (sent : c.unsent = []) (now : Nat) :
    ∃ moves, (settleWithin (Conversation.move? · now) moves c).Quiet now := by
  induction reached.acc_move tells requests responses with
  | intro c _ ih =>
    cases moved : c.move? now with
    | none => exact ⟨0, Option.map_eq_none_iff.mp moved, Or.inl sent⟩
    | some after =>
      have move := Conversation.move_of_move? moved
      have sent_after : after.unsent = [] := by
        obtain ⟨loop, -, rfl⟩ := Option.map_eq_some_iff.mp moved
        exact sent
      obtain ⟨moves, quiet⟩ := ih after move (reached.step (.move move)) sent_after
      refine ⟨moves + 1, ?_⟩
      unfold settleWithin
      rw [moved]
      exact quiet

end Run

end Exchange

end RemoteCall
