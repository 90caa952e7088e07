import RemoteCall.Proofs.Loopback.Course

/-!
# The moves of a live conversation

What one move of a live conversation leads to is live again, or over if the move has delivered the
end of the response. Parts that the client sends enter the queue to the server, are taken off what
is coming there, and show up in what the handler sees; parts of the service enter the queue to
the client and are taken off what the client has yet to hear. Each move leaves fewer moves.
-/

namespace RemoteCall

open Client (Active Hears Setup)
open Server (Service Sight Story)

variable {τ σ P Req Resp S : Type}

namespace Exchange

variable {x : Exchange τ σ P Req Resp S} {story : Story Req Resp}
  {c : Conversation τ σ P Req Resp S}

/-! ### The client's moves -/

theorem Live.submit {moves : Nat} (live : x.Live story c moves)
    {batch behind : List (RequestPart Req)} (next : c.unsent = batch ++ behind)
    (some : batch ≠ []) :
    ∃ fewer < moves, x.Live story
      { c with loop := c.loop.request (c.loop.near.submit batch), unsent := behind } fewer := by
  obtain ⟨out, back, future, left, effort, near, waits, call, task, proceeds, bound⟩ := live
  obtain ⟨flows, arrives, returns, carries, listens, attended, seen⟩ := proceeds
  obtain ⟨active, running, script, requests, sent, issued, hears⟩ := listens
  rw [next] at script requests attended
  have first := requests.of_subset (List.subset_append_left _ _)
  obtain ⟨receipts, closed, later, ops, entries, signals, sends, queued, flows, arrived, script,
    length, more, tickets⟩ := sends near flows running script first sent
  have requested : c.loop.request (c.loop.near.submit batch) =
      { near := x.setup.active { near with closed, sent := later } (waits ++ [.ok receipts])
        far := { c.loop.far with link := { c.loop.far.link with
          toServer := c.loop.far.link.toServer ++ entries
          requestSignals := signals } } } := by
    rw [active, Client.Active.submit_active sends, ← queued]
    rfl
  rw [requested]
  -- Of the batch, each part costs one in the queue instead of three, and one wait is new.
  refine ⟨_, ?_, out ++ batch, back, future, left, effort, { near with closed, sent := later },
    waits ++ [.ok receipts], call, task,
    ⟨flows, List.rel_append arrives arrived, returns, carries, ?_, ?_, seen⟩, Nat.le_refl _⟩
  · have most : 0 < batch.length := List.length_pos_of_ne_nil some
    have entered := arrived.length_eq
    rw [Conversation.backlog, next, active] at bound
    simp only [Conversation.backlog, Setup.active, FarEnd.holds, List.length_append,
      List.length_map, List.length_singleton] at bound ⊢
    omega
  · refine ⟨rfl, running, script, ?_, length, ?_, hears⟩
    · exact requests.of_subset (List.subset_append_right _ _)
    · intro waiting member
      rcases List.mem_append.mp member with member | member
      · obtain ⟨receipts, rfl, tickets⟩ := issued waiting member
        refine ⟨receipts, rfl, fun r member => ?_⟩
        obtain ⟨t, below, rfl⟩ := tickets r member
        exact ⟨t, Nat.lt_of_lt_of_le below more, rfl⟩
      · obtain rfl := List.mem_singleton.mp member
        exact ⟨receipts, rfl, tickets⟩
  · obtain ⟨state, sent, attends⟩ := attended
    rw [← List.append_assoc] at attends
    exact ⟨state, sent, attends⟩

theorem Live.pull {moves : Nat} (live : x.Live story c moves) :
    x.Live story { c with
      loop := { c.loop with near := { c.loop.near with call := c.loop.near.call.pull.2 } }
      shown := c.shown ++ c.loop.near.call.pull.1.toList } moves := by
  obtain ⟨out, back, future, left, effort, near, waits, call, task, proceeds, bound⟩ := live
  obtain ⟨flows, arrives, returns, carries, listens, attended, seen⟩ := proceeds
  obtain ⟨active, running, script, requests, sent, issued, hears⟩ := listens
  rw [Conversation.backlog, active] at bound
  rw [active]
  refine ⟨out, back, future, left, effort, near.pull.2, waits, call, task,
    ⟨flows, arrives, returns, carries, ?_, attended, seen⟩, bound⟩
  have kept := Client.Call.pull_snd near
  refine ⟨rfl, ?_, ?_, requests, ?_, ?_, hears.pull⟩
  · rw [kept]
    exact running
  · rw [kept]
    exact script
  · rw [kept]
    exact sent
  · rw [kept]
    exact issued

theorem Live.nearErrand {moves : Nat} (live : x.Live story c moves)
    {loop : Loopback τ σ P Req Resp S} (moved : c.loop.moveErrand? = some loop) :
    ∃ fewer < moves, x.Live story { c with loop } fewer := by
  obtain ⟨out, back, future, left, effort, near, waits, call, task, proceeds, bound⟩ := live
  obtain ⟨flows, arrives, returns, carries, listens, attended, seen⟩ := proceeds
  obtain ⟨active, running, script, requests, sent, issued, hears⟩ := listens
  obtain ⟨done, errand, rfl⟩ := Option.map_eq_some_iff.mp moved
  rw [active] at errand
  obtain ⟨before, batch, behind, rfl, rfl⟩ := Client.Active.moveErrand?_active errand
  have fewer : ∀ waiting ∈ before ++ behind, waiting ∈ before ++ batch :: behind := by
    intro waiting member
    rcases List.mem_append.mp member with member | member
    · exact List.mem_append_left _ member
    · exact List.mem_append_right _ (List.mem_cons_of_mem _ member)
  refine ⟨_, ?_, out, back, future, left, effort, near, before ++ behind, call, task,
    ⟨flows, arrives, returns, carries,
      ⟨rfl, running, script, requests, sent, fun waiting member => issued waiting (fewer _ member),
        hears⟩,
      attended, seen⟩, Nat.le_refl _⟩
  rw [Conversation.backlog, active] at bound
  simp only [Conversation.backlog, Setup.active, Loopback.request, FarEnd.holds, List.foldl_nil,
    List.length_map, List.length_append, List.length_cons] at bound ⊢
  omega

/-! ### The moves behind the link -/

theorem Listens.withFar {coming : List (ResponsePart Resp)} {near : Client.Call τ Resp}
    {waits : List (Result (List Receipt))} (listens : x.Listens story c coming near waits)
    {far : FarEnd σ P Req Resp S} (seen : List (Sight Req))
    (same : far.link.requestSignals.length = c.loop.far.link.requestSignals.length) :
    x.Listens story { c.withFar far with seen } coming near waits := by
  obtain ⟨active, running, script, requests, sent, issued, hears⟩ := listens
  exact ⟨active, running, script, requests, sent.trans same.symm, issued, hears⟩

theorem Live.serve {moves : Nat} (live : x.Live story c moves) {far : FarEnd σ P Req Resp S}
    (moved : c.loop.far.serve? = some far) :
    ∃ fewer < moves, x.Live story (c.withFar far) fewer := by
  obtain ⟨out, back, future, left, effort, near, waits, call, task, proceeds, bound⟩ := live
  obtain ⟨flows, arrives, returns, carries, listens, ⟨state, sent, attends⟩, seen⟩ := proceeds
  rcases state with ⟨serving, running⟩ |
    ⟨absent, starting, ⟨path, target, compression, shared⟩, rfl, rfl⟩
  · cases queue : c.loop.far.link.toServer with
    | nil =>
      rw [FarEnd.serve?, Link.serve?, running, queue, if_pos flows.isOpen] at moved
      cases moved
    | cons entry rest =>
      rw [queue] at arrives
      cases arrives with
      | @cons part _ out _ first later =>
        obtain ⟨payload, ticket, rfl, decodes⟩ := first
        obtain ⟨call', task', received, same, attends⟩ := attends.receive decodes
        have taken : c.loop.far.serve? = some
            { c.loop.far with
              serving := some (x.service.serving call' task')
              link := { c.loop.far.link with toServer := rest }.acceptRequest ticket } := by
          simp only [FarEnd.serve?, Link.serve?, running, queue, FarEnd.onServing, serving,
            received]
          rfl
        cases taken.symm.trans moved
        have signals : ({ c.loop.far.link with toServer := rest }.acceptRequest
            ticket).requestSignals.length = c.loop.far.link.requestSignals.length :=
          List.length_set
        refine ⟨_, ?_, out, back, future, left, effort, near, waits, call', task',
          ⟨flows.acceptRequest queue, later, returns, carries, listens.withFar c.seen signals,
            ⟨Or.inl ⟨rfl, running⟩, same.trans sent, attends⟩, seen⟩, Nat.le_refl _⟩
        rw [Conversation.backlog, FarEnd.holds, serving, queue] at bound
        simp only [Conversation.backlog, Conversation.withFar, Link.acceptRequest, FarEnd.holds,
          Service.serving, Bool.false_eq_true, if_false, List.length_cons] at bound ⊢
        omega
  · have dispatched : c.loop.far.serve? = some
        { c.loop.far with
          serving := some (x.service.serving (.fresh x.service.path x.service.shared) .absent)
          link := { c.loop.far.link with serving := .running } } := by
      simp only [FarEnd.serve?, Link.serve?, starting, FarEnd.dispatch, target, compression, path,
        shared]
      rfl
    cases dispatched.symm.trans moved
    obtain ⟨isOpen, delivering, attached, requests, responses⟩ := flows
    refine ⟨_, ?_, out, back, future, left, effort, near, waits, _, _,
      ⟨⟨isOpen, delivering, attached, requests, responses⟩, arrives, returns, carries,
        listens.withFar c.seen rfl, ⟨Or.inl ⟨rfl, rfl⟩, sent, attends⟩, seen⟩, Nat.le_refl _⟩
    rw [Conversation.backlog, FarEnd.holds, absent, starting] at bound
    simp only [Conversation.backlog, Conversation.withFar, FarEnd.holds, Service.serving,
      Bool.false_eq_true, if_false, Pump.turns] at bound ⊢
    omega

theorem returns_of_encoded {parts : List (ResponsePart Resp)} {payloads : List (ResponsePart P)}
    {entries : List (ResponsePart P × Nat)} (carries : x.CarriesResponses parts)
    (encoded : List.Forall₂ x.service.Encoded parts payloads)
    (queued : List.Forall₂ (fun part entry => part = Prod.fst entry) payloads entries) :
    List.Forall₂ x.Returns parts entries := by
  refine forall₂_comp encoded queued fun part member payload entry first same => ?_
  have decodes := decodes_response (fun message flags same => carries message flags (same ▸ member))
    first
  unfold Returns
  rw [← same]
  exact decodes

/-- The parts of the service are accepted or still on their way. -/
theorem accepting {far : FarEnd σ P Req Resp S} (flows : far.link.Flows) (t : Nat)
    (below : t < far.link.responseSignals.length) :
    far.responseSignals t = .waiting ∨ far.responseSignals t = .settled (.ok ()) := by
  unfold FarEnd.responseSignals
  rcases flows.responses t below with accepted | ⟨waiting, -⟩
  · rw [accepted]
    exact Or.inr rfl
  · rw [waiting]
    exact Or.inl rfl

theorem Live.task {moves : Nat} (live : x.Live story c moves) {now : Nat}
    {far : FarEnd σ P Req Resp S} (moved : c.loop.far.moveTask? now = some far) :
    ∃ fewer < moves,
      x.Live story { c.withFar far with seen := c.seen ++ c.loop.far.sights } fewer := by
  obtain ⟨out, back, future, left, effort, near, waits, call, task, proceeds, bound⟩ := live
  obtain ⟨flows, arrives, returns, carries, listens, ⟨state, sent, attends⟩, seen⟩ := proceeds
  rcases state with ⟨serving, running⟩ | ⟨absent, -⟩
  · simp only [FarEnd.moveTask?, serving] at moved
    obtain ⟨done, goesOn, rfl⟩ := Option.map_eq_some_iff.mp moved
    have shows : c.loop.far.sights = (x.service.serving call task).sights := by
      simp only [FarEnd.sights, serving]
    obtain ⟨call', task', parts, future', left', effort', after, encoded, rfl, rfl, less, more,
      attends⟩ :=
      attends.moveTask? carries.encodes (fun t below => accepting flows t (sent ▸ below)) goesOn
    obtain ⟨entries, signals, queued, flows, same, length⟩ := flows.respondAll done.2
    have responded : c.loop.far.respond done =
        { c.loop.far with
          serving := some (x.service.serving call' task')
          link := { c.loop.far.link with
            toClient := c.loop.far.link.toClient ++ entries
            responseSignals := signals } } := by
      unfold FarEnd.respond
      rw [queued, after]
    rw [queued] at flows
    rw [responded, shows]
    have first := carries.of_subset (List.subset_append_left _ _)
    have behind := carries.of_subset (List.subset_append_right _ _)
    rw [← List.append_assoc] at listens
    refine ⟨_, ?_, out, back ++ parts, future', left', effort', near, waits, call', task',
      ⟨flows, arrives, List.rel_append returns (returns_of_encoded first encoded same), behind,
        listens.withFar _ rfl, ⟨Or.inl ⟨rfl, running⟩, ?_, attends⟩, ?_⟩, Nat.le_refl _⟩
    · rw [Conversation.backlog, FarEnd.holds, serving] at bound
      simp only [Conversation.backlog, Conversation.withFar, FarEnd.holds, Service.serving,
        Bool.false_eq_true, if_false, List.length_append] at bound ⊢
      omega
    · show call'.sent = signals.length
      rw [more, length, sent, encoded.length_eq]
    · rw [List.append_assoc]
      exact seen
  · simp only [FarEnd.moveTask?, absent] at moved
    cases moved

/-- Nobody but the handler moves the served call of a live conversation, nobody lets go, and the
clock changes nothing. -/
theorem Live.still {moves : Nat} (live : x.Live story c moves) (now : Nat) :
    c.loop.far.moveErrand? = none ∧ c.loop.far.dissolve? = none ∧ c.loop.expire? now = none ∧
      c.loop.dissolve? = none ∧ c.loop.tick now = c.loop := by
  obtain ⟨out, back, future, left, effort, near, waits, call, task, proceeds, -⟩ := live
  obtain ⟨patient, held⟩ := Loopback.still_of_active proceeds.listens.active now
  unfold FarEnd.moveErrand? FarEnd.dissolve?
  rcases proceeds.attended.state with ⟨serving, -⟩ | ⟨absent, -⟩
  · rw [serving]
    refine ⟨rfl, rfl, patient, held, Loopback.tick_of_still patient fun s served => ?_⟩
    cases serving.symm.trans served
    exact proceeds.attended.attends.tick now
  · rw [absent]
    refine ⟨rfl, rfl, patient, held, Loopback.tick_of_still patient fun s served => ?_⟩
    cases absent.symm.trans served

/-! ### Deliveries -/

theorem deliver?_part {loop : Loopback τ σ P Req Resp S} {payload : ResponsePart P} {ticket : Nat}
    {link : Link P} {out : Active τ P Req Resp × List (Client.TransportOp P)}
    (next : loop.far.link.deliver? = some (.part payload ticket, link))
    (heard : loop.near.onPart payload = out) :
    loop.deliver? = some
      { near := out.1
        far := { loop.far with
          link := (out.2.foldl Loopback.apply link).acceptResponse payload ticket } } := by
  unfold Loopback.deliver?
  rw [next, ← heard]
  rfl

theorem onPart_active {call : Client.Call τ Resp} {waits : List (Result (List Receipt))}
    {payload : ResponsePart P} {part : ResponsePart Resp}
    (decodes : payload.tryMap x.setup.responses.decode = .ok part) {p : Client.Pass τ P Resp}
    (delivers : Client.Pass.deliver part (.start call) = p) :
    (x.setup.active call waits).onPart payload = (x.setup.active p.call waits, p.ops) := by
  have received : call.onPart x.setup payload = p := by
    simp only [Client.Call.onPart, decodes, Client.Pass.receive, Chain.receive, x.plain,
      Chain.arrive_empty]
    exact delivers
  show (x.setup.active call waits).settle (call.onPart x.setup payload) = _
  rw [received]
  rfl

/-- A part is delivered: it is heard, and the conversation goes on unless it is the end. -/
theorem Live.deliver {moves : Nat} (live : x.Live story c moves) (fits : story.Fits x.setup.shape)
    {loop : Loopback τ σ P Req Resp S} (moved : c.loop.deliver? = some loop) :
    (∃ fewer < moves, x.Live story { c with loop } fewer) ∨
      x.Over story { c with loop } ∧ { c with loop }.backlog < moves := by
  obtain ⟨out, back, future, left, effort, near, waits, call, task, proceeds, bound⟩ := live
  obtain ⟨flows, arrives, returns, carries, listens, ⟨state, sent, attends⟩, seen⟩ := proceeds
  obtain ⟨active, running, script, requests, issues, issued, hears⟩ := listens
  cases queue : c.loop.far.link.toClient with
  | nil =>
    -- An empty queue is an error only once the server has let go, which it has not.
    have waits : c.loop.far.link.deliver? = none := by
      simp only [Link.deliver?, flows.delivering, queue, flows.attached]
      rfl
    rw [Loopback.deliver?, waits] at moved
    cases moved
  | cons entry rest =>
    obtain ⟨payload, ticket⟩ := entry
    rw [queue] at returns
    cases returns with
    | @cons part _ back _ first later =>
      have decodes : payload.tryMap x.setup.responses.decode = .ok part := first
      have next : c.loop.far.link.deliver? =
          some (.part payload ticket, { c.loop.far.link with toClient := rest }) := by
        simp only [Link.deliver?, flows.delivering, queue]
      have finishes := ResponsePart.isFinish_of_tryMap decodes
      cases last : part.isFinish with
      | false =>
        obtain ⟨accumulator, order, delivers, hears⟩ := hears.deliver fits last
        rw [deliver?_part next (active ▸ onPart_active decodes delivers)] at moved
        cases moved
        obtain ⟨accepted, flows⟩ := flows.acceptResponse queue (finishes.symm.trans last)
        rw [accepted] at flows
        simp only [Client.Pass.start, List.foldl_nil, accepted]
        refine Or.inl ⟨_, ?_, out, back, future, left, effort, { near with accumulator, order },
          waits, call, task,
          ⟨flows, arrives, later, carries, ?_, ⟨state, ?_, attends⟩, seen⟩, Nat.le_refl _⟩
        · rw [Conversation.backlog, active] at bound
          simp only [Conversation.backlog, Setup.active, FarEnd.holds, List.length_cons,
            List.cons_append] at bound ⊢
          omega
        · exact ⟨rfl, running, script, requests, issues, issued, hears⟩
        · exact sent.trans List.length_set.symm
      | true =>
        obtain ⟨accumulator, order, delivers, none, heard⟩ :=
          hears.deliver_last fits last running
        -- Nothing comes behind the end, so the service has emitted everything and is over.
        obtain ⟨rfl, rfl⟩ := List.append_eq_nil_iff.mp none
        obtain ⟨isOver, rfl⟩ := attends.isOver
        rw [deliver?_part next (active ▸ onPart_active decodes delivers)] at moved
        cases moved
        have ended : payload.isFinish = true := finishes.symm.trans last
        rcases state with ⟨serving, served⟩ | ⟨-, -, -, -, rfl⟩
        · refine Or.inr ⟨⟨⟨_, waits, rfl, rfl, heard⟩, ⟨_, serving, isOver⟩, ?_, ?_, ?_, ?_⟩, ?_⟩
          · simp [Link.acceptResponse, ended, Link.stopDelivering]
          · simp [Link.acceptResponse, ended, Link.stopDelivering]
          · simp [Link.acceptResponse, ended, Link.stopDelivering, Loopback.apply, Link.cancel,
              flows.isOpen, served]
          · rw [← List.append_nil c.seen]
            exact seen
          · rw [Conversation.backlog, active] at bound
            simp only [Conversation.backlog, Setup.active, FarEnd.holds, Link.acceptResponse, ended,
              if_true, Link.stopDelivering, Loopback.apply, Link.cancel, flows.isOpen,
              List.foldl_cons, List.foldl_nil, List.length_append, List.length_cons,
              List.length_nil] at bound ⊢
            omega
        · cases isOver.gone

end Exchange

end RemoteCall
