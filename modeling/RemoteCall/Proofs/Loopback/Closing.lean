import RemoteCall.Proofs.Loopback.Course

/-!
# After the end of a conversation

Once the end of the response has reached the client, the link is closed. What the client sent
before still goes to the server, what it sends now is refused, and both sides let go; but what
the client knows and what the handler has seen stays as it is.
-/

namespace RemoteCall

open Server (Serving Story)

variable {τ σ P Req Resp S : Type}

/-- A closed link hands over what it still has, and stays closed. -/
theorem Link.serve?_closed {link link' : Link P} {step : Link.ServeStep P}
    (closed : link.isOpen = false) (dispatched : link.serving ≠ .starting)
    (moved : link.serve? = some (step, link')) :
    step ≠ .dispatch ∧ link'.isOpen = false ∧ link'.delivering = link.delivering ∧
      link'.serving ≠ .starting ∧
      link'.toServer.length + link'.serving.turns < link.toServer.length + link.serving.turns := by
  unfold Link.serve? at moved
  cases serving : link.serving with
  | starting => exact absurd serving dispatched
  | idle =>
    rw [serving] at moved
    cases moved
  | stopped =>
    rw [serving] at moved
    cases moved
  | running =>
    rw [serving, closed] at moved
    simp only [Pump.turns]
    cases queue : link.toServer with
    | nil =>
      rw [queue] at moved
      cases moved
      exact ⟨by simp, rfl, rfl, by simp, by simp⟩
    | cons entry rest =>
      rw [queue] at moved
      cases entry with
      | part part ticket =>
        cases moved
        exact ⟨by simp, rfl, rfl, by simp, by simp⟩
      | cancel ticket =>
        cases moved
        exact ⟨by simp, rfl, rfl, by simp, by simp⟩

/-- A change of the served call that answers nothing. -/
theorem FarEnd.onServing_silent {far : FarEnd σ P Req Resp S} {s : Serving σ P Req Resp S}
    (serving : far.serving = some s) (link : Link P)
    {f : Serving σ P Req Resp S → Serving σ P Req Resp S × List (ResponsePart P)}
    (silent : (f s).2 = []) :
    { far with link }.onServing f = { far with link, serving := some (f s).1 } := by
  simp only [onServing, serving, respond, silent, List.foldl_nil]

namespace Exchange

variable {x : Exchange τ σ P Req Resp S} {story : Story Req Resp}
  {c : Conversation τ σ P Req Resp S}

theorem Over.submit (atEnd : x.Over story c) {batch behind : List (RequestPart Req)}
    (next : c.unsent = batch ++ behind) (some : batch ≠ []) :
    let c' := { c with loop := c.loop.request (c.loop.near.submit batch), unsent := behind }
    x.Over story c' ∧ c'.backlog < c.backlog := by
  obtain ⟨⟨call, waits, active, terminated, heard⟩, far, closed, stopped, dispatched, seen⟩ := atEnd
  obtain ⟨part, rest, rfl⟩ := List.exists_cons_of_ne_nil some
  obtain ⟨e, refused⟩ : ∃ e, Client.Pass.enqueue x.setup (part :: rest) (.start call) =
      (.error e, .start call) := Client.Pass.enqueue_refused terminated
  have sends : call.send x.setup (part :: rest) = (.error e, .start call) := by
    unfold Client.Call.send
    rw [refused]
  have requested : c.loop.request (c.loop.near.submit (part :: rest)) =
      { c.loop with near := x.setup.active call (waits ++ [.error e]) } := by
    rw [active, Client.Active.submit_active sends]
    rfl
  simp only [requested]
  refine ⟨⟨⟨call, _, rfl, terminated, heard⟩, far, closed, stopped, dispatched, seen⟩, ?_⟩
  simp only [Conversation.backlog, next, active, Client.Setup.active, List.length_append,
    List.length_map, List.length_cons, List.length_nil]
  omega

theorem Over.pull (atEnd : x.Over story c) :
    let c' := { c with
      loop := { c.loop with near := { c.loop.near with call := c.loop.near.call.pull.2 } }
      shown := c.shown ++ c.loop.near.call.pull.1.toList }
    x.Over story c' ∧ c'.backlog = c.backlog := by
  obtain ⟨⟨call, waits, active, terminated, heard⟩, far, closed, stopped, dispatched, seen⟩ := atEnd
  have kept : call.pull.2.terminated = true := by
    rw [Client.Call.pull_snd]
    exact terminated
  simp only [Conversation.backlog, active]
  exact ⟨⟨⟨call.pull.2, waits, rfl, kept, heard.pull⟩, far, closed, stopped, dispatched, seen⟩,
    trivial⟩

theorem Over.nearErrand (atEnd : x.Over story c) {loop : Loopback τ σ P Req Resp S}
    (moved : c.loop.moveErrand? = some loop) :
    x.Over story { c with loop } ∧ { c with loop }.backlog < c.backlog := by
  obtain ⟨⟨call, waits, active, terminated, heard⟩, far, closed, stopped, dispatched, seen⟩ := atEnd
  obtain ⟨done, errand, rfl⟩ := Option.map_eq_some_iff.mp moved
  rw [active] at errand
  obtain ⟨before, batch, behind, rfl, rfl⟩ := Client.Active.moveErrand?_active errand
  refine ⟨⟨⟨call, before ++ behind, rfl, terminated, heard⟩, far, closed, stopped, dispatched,
    seen⟩, ?_⟩
  simp only [Conversation.backlog, active, Client.Setup.active, Loopback.request, FarEnd.holds,
    List.foldl_nil, List.length_map, List.length_append, List.length_cons]
  omega

theorem Over.serve (atEnd : x.Over story c) {far : FarEnd σ P Req Resp S}
    (moved : c.loop.far.serve? = some far) :
    x.Over story (c.withFar far) ∧ (c.withFar far).backlog < c.backlog := by
  obtain ⟨near, ⟨s, serving, isOver⟩, closed, stopped, dispatched, seen⟩ := atEnd
  unfold FarEnd.serve? at moved
  cases next : c.loop.far.link.serve? with
  | none =>
    rw [next] at moved
    cases moved
  | some taken =>
    obtain ⟨step, link⟩ := taken
    obtain ⟨served, closed, same, dispatched, fewer⟩ := Link.serve?_closed closed dispatched next
    have stopped : link.delivering = .stopped := same.trans stopped
    simp only [next, Option.some.injEq] at moved
    subst moved
    cases step with
    | dispatch => exact absurd rfl served
    | part payload ticket =>
      obtain ⟨isOver, silent⟩ := isOver.receive payload
      simp only [FarEnd.onServing_silent serving link (f := (·.receive payload)) silent]
      refine ⟨⟨near, ⟨_, rfl, isOver⟩, closed, stopped, dispatched, seen⟩, ?_⟩
      simp only [Conversation.backlog, Conversation.withFar, FarEnd.holds, serving,
        Link.acceptRequest, Serving.receive, Serving.settle]
      omega
    | cancel ticket =>
      obtain ⟨isOver, silent⟩ := isOver.receiveError .cancelled
      simp only [FarEnd.onServing_silent serving link (f := (·.receiveError .cancelled)) silent]
      refine ⟨⟨near, ⟨_, rfl, isOver⟩, closed, stopped, dispatched, seen⟩, ?_⟩
      simp only [Conversation.backlog, Conversation.withFar, FarEnd.holds, serving,
        Link.acceptCancel, Serving.receiveError, Serving.settle]
      omega
    | release =>
      simp only [FarEnd.onServing_silent serving link (f := fun s => (s.release, [])) rfl]
      refine ⟨⟨near, ⟨_, rfl, isOver.release⟩, closed, stopped, dispatched, seen⟩, ?_⟩
      simp only [Conversation.backlog, Conversation.withFar, FarEnd.holds, serving, Serving.release]
      omega

theorem Over.farDissolve (atEnd : x.Over story c) {far : FarEnd σ P Req Resp S}
    (moved : c.loop.far.dissolve? = some far) :
    x.Over story (c.withFar far) ∧ (c.withFar far).backlog < c.backlog := by
  obtain ⟨near, ⟨s, serving, isOver⟩, closed, stopped, dispatched, seen⟩ := atEnd
  simp only [FarEnd.dissolve?, serving] at moved
  obtain ⟨s', dissolved, rfl⟩ := Option.map_eq_some_iff.mp moved
  refine ⟨⟨near, ⟨s', rfl, isOver.dissolve? dissolved⟩, closed, stopped, dispatched, seen⟩, ?_⟩
  obtain ⟨held, taken⟩ := Option.ite_none_left_eq_some.mp dissolved
  cases taken
  have undissolved : s.dissolved = false := by simp_all
  simp only [Conversation.backlog, Conversation.withFar, FarEnd.holds, serving, Link.dropServer,
    undissolved]
  simp

/-- Nothing else moves: no handler, no errand behind the link, no delivery and no clock. -/
theorem Over.still (atEnd : x.Over story c) (now : Nat) :
    c.loop.far.moveTask? now = none ∧ c.loop.far.moveErrand? = none ∧ c.loop.deliver? = none ∧
      c.loop.expire? now = none ∧ c.loop.dissolve? = none ∧ c.loop.tick now = c.loop := by
  obtain ⟨⟨call, waits, active, -, -⟩, ⟨s, serving, isOver⟩, closed, stopped, dispatched, seen⟩ :=
    atEnd
  obtain ⟨patient, held⟩ := Loopback.still_of_active active now
  refine ⟨?_, ?_, ?_, patient, held, ?_⟩
  · simp only [FarEnd.moveTask?, serving, isOver.moveTask?_eq_none, Option.map_none]
  · simp only [FarEnd.moveErrand?, serving, isOver.moveErrand?_eq_none, Option.map_none]
  · simp only [Loopback.deliver?, Link.deliver?, stopped]
  · refine Loopback.tick_of_still patient fun s' served => ?_
    cases serving.symm.trans served
    exact isOver.tick now

end Exchange

end RemoteCall
