import Mathlib.Data.List.Induction
import RemoteCall.Proofs.Server.Rejection

/-!
# Orderly runs of a served call

Nobody can write to a call but its handler and those to whom it gave its writer, and the transport
delivers nothing to a call that it has let go of. The events of a served call keep to this
(`Orderly`), whatever its handler does (`Serving.orderly_run`), and of such events every one keeps
a call where the parts that arrived put it (`Call.tracks_run`). So it is known which part is the
first to deviate from what the method takes, that the end enters the chain for it at once, and
that nothing else does (`Call.rejects`).
-/

namespace RemoteCall.Server

variable {σ P Req Resp : Type}

/-- Whether somebody needs a writer of the call for an event, or to be its handler. -/
def Event.emits : Event σ P Req Resp → Bool
  | write _ _ _ => true
  | finish _ => true
  | _ => false

/-- Whether an event leaves the call alone but for its context and its request stream. -/
def Event.isQuiet : Event σ P Req Resp → Bool
  | use _ => true
  | poll => true
  | _ => false

/-- Events as they happen to a call: a handler that was never started has given its writer to
nobody and does not return, and the transport delivers nothing once it has let go of the call. -/
structure Orderly (method : Method σ P Req Resp) (call : Call σ Req)
    (events : List (Event σ P Req Resp)) : Prop where
  started : ∀ before event after, events = before ++ event :: after → event.emits = true →
    call.starts method before ≠ []
  released : ∀ before after, events = before ++ .release :: after →
    ∀ event ∈ after, event.isOwn = true
  /-- Who can feed the request stream can do everything but hold the context or the stream. -/
  abandoned : ∀ before after, events = before ++ .abandon :: after →
    ∀ event ∈ after, event.isQuiet = true

namespace Orderly

variable {method : Method σ P Req Resp} {call : Call σ Req} {before : List (Event σ P Req Resp)}

/-- What happens first is orderly, too. -/
theorem of_append {after : List (Event σ P Req Resp)}
    (orderly : Orderly method call (before ++ after)) : Orderly method call before := by
  have longer : ∀ first event rest, before = first ++ event :: rest →
      before ++ after = first ++ event :: (rest ++ after) := by
    intro first event rest split
    rw [split, List.append_assoc, List.cons_append]
  refine ⟨?_, ?_, ?_⟩
  · exact fun first event rest split => orderly.started first event _ (longer _ _ _ split)
  · exact fun first rest split event mem =>
      orderly.released first _ (longer _ _ _ split) event (List.mem_append_left _ mem)
  · exact fun first rest split event mem =>
      orderly.abandoned first _ (longer _ _ _ split) event (List.mem_append_left _ mem)

theorem starts_ne_nil {event : Event σ P Req Resp} {after : List (Event σ P Req Resp)}
    (orderly : Orderly method call (before ++ event :: after)) (emits : event.emits = true) :
    call.starts method before ≠ [] :=
  orderly.started before event after rfl emits

/-- Where the last event stands in a list that ends with it. -/
theorem split_concat {events : List (Event σ P Req Resp)} {last event : Event σ P Req Resp}
    {after : List (Event σ P Req Resp)} (split : events ++ [last] = before ++ event :: after) :
    (events = before ∧ last = event ∧ after = []) ∨
      ∃ rest, events = before ++ event :: rest ∧ after = rest ++ [last] := by
  rcases List.eq_nil_or_concat after with rfl | ⟨rest, other, rfl⟩
  · obtain ⟨rfl, same⟩ := List.append_inj' split rfl
    exact Or.inl ⟨rfl, List.singleton_inj.mp same, rfl⟩
  · rw [List.concat_eq_append, ← List.cons_append, ← List.append_assoc] at split
    obtain ⟨rfl, same⟩ := List.append_inj' split rfl
    rw [List.concat_eq_append, List.singleton_inj.mp same]
    exact Or.inr ⟨rest, rfl, rfl⟩

/-- One more event is in order if those before it allow it. -/
theorem concat {events : List (Event σ P Req Resp)} (orderly : Orderly method call events)
    (event : Event σ P Req Resp) (started : event.emits = true → call.starts method events ≠ [])
    (released : .release ∈ events → event.isOwn = true)
    (abandoned : .abandon ∈ events → event.isQuiet = true) :
    Orderly method call (events ++ [event]) := by
  refine ⟨fun before e after split emits => ?_, fun before after split e mem => ?_,
    fun before after split e mem => ?_⟩
  · rcases split_concat split with ⟨rfl, rfl, -⟩ | ⟨rest, all, -⟩
    · exact started emits
    · exact orderly.started before e rest all emits
  · rcases split_concat split with ⟨-, -, rfl⟩ | ⟨rest, all, rfl⟩
    · cases mem
    · rcases List.mem_append.mp mem with earlier | last
      · exact orderly.released before rest all e earlier
      · rw [List.mem_singleton.mp last]
        exact released (by simp [all])
  · rcases split_concat split with ⟨-, -, rfl⟩ | ⟨rest, all, rfl⟩
    · cases mem
    · rcases List.mem_append.mp mem with earlier | last
      · exact orderly.abandoned before rest all e earlier
      · rw [List.mem_singleton.mp last]
        exact abandoned (by simp [all])

/-- The transport may deliver whatever it likes. -/
theorem of_received (method : Method σ P Req Resp) (call : Call σ Req)
    (parts : List (RequestPart P)) : Orderly method call (parts.map .receive) := by
  induction parts using List.reverseRecOn with
  | nil => exact ⟨by simp, by simp, by simp⟩
  | append_singleton parts part ih =>
    rw [List.map_append]
    exact ih.concat (.receive part) nofun (by simp) (by simp)

end Orderly

namespace Call

variable {method : Method σ P Req Resp} {call : Call σ Req} {starts : List (Option Req)}
  {answers : List (Poll (Result (Option Req)))} {history : List (Incident Req Resp)}

/-- A call is where it should be after these incidents. -/
def Tracks (method : Method σ P Req Resp) (history : List (Incident Req Resp))
    (starts : List (Option Req)) (answers : List (Poll (Result (Option Req))))
    (call : Call σ Req) : Prop :=
  Server.Tracks method.shape.streamsRequests history (call.ledger starts answers) call.suppressed

/-- What is not about the request side or the gate does not matter. -/
theorem Tracks.of_eq (tracks : call.Tracks method history starts answers) (call' : Call σ Req)
    (inbound : call'.inbound = call.inbound)
    (headers : call'.context.headers = call.context.headers) (ended : call'.ended = call.ended)
    (suppressed : call'.suppressed = call.suppressed) :
    call'.Tracks method history starts answers := by
  unfold Tracks
  rw [suppressed]
  exact Server.Tracks.of_eq tracks inbound headers ended rfl

theorem Tracks.start (tracks : call.Tracks method history starts answers) :
    (Pass.start call : Pass σ P Req).Tracks method history starts answers := by
  unfold Pass.Tracks Pass.ledger
  rw [show starts ++ (Pass.start call : Pass σ P Req).starts = starts from List.append_nil _]
  exact tracks

theorem Tracks.loseClient (tracks : call.Tracks method history starts answers) (e : CallError) :
    (call.loseClient e).Tracks method (history ++ [.arrival (.failure e)]) starts answers := by
  unfold Tracks
  rw [show (call.loseClient e).ledger starts answers = _ from
    Pass.ledger_closeInbound Resp method.shape.streamsRequests call e]
  exact tracks.failure e true

theorem Tracks.closeInbound (tracks : call.Tracks method history starts answers)
    (e : CallError) :
    (call.closeInbound e).Tracks method (history ++ [.arrival (.failure e)]) starts answers := by
  unfold Tracks
  rw [Pass.ledger_closeInbound Resp method.shape.streamsRequests call e]
  exact tracks.failure e _

theorem isPast_closeInbound (call : Call σ Req) (e : CallError) :
    (call.closeInbound e).inbound.isPast = true := by
  obtain ⟨requests, same⟩ := Pass.call_closeInbound call e
  rw [same]
  rfl

/-- An event keeps a call where it should be. -/
theorem Tracks.event (tracks : call.Tracks method history starts answers)
    (event : Event σ P Req Resp) (started : event.emits = true → starts ≠ [])
    (answers' : List (Poll (Result (Option Req)))) :
    (event.pass method call).Tracks method (history ++ event.incidents method call) starts
      answers' := by
  have past : starts ≠ [] → call.inbound.isPast = true := tracks.stands.isPast_of_starts
  have still : history ++ [] = history := List.append_nil history
  -- Polls do not matter here.
  suffices same : (event.pass method call).Tracks method
      (history ++ event.incidents method call) starts answers from
    Server.Tracks.of_eq same rfl rfl rfl rfl
  cases event with
  | use how =>
    refine still.symm ▸ (tracks.of_eq { call with context := how.apply call.context } rfl ?_ rfl
      rfl).start
    cases how <;> rfl
  | poll =>
    exact still.symm ▸ (tracks.of_eq { call with requests := call.requests.pull.2 } rfl rfl rfl
      rfl).start
  | abandon =>
    exact still.symm ▸ (tracks.of_eq { call with requests := call.requests.abandon } rfl rfl rfl
      rfl).start
  | finish result =>
    cases result with
    | ok u => exact tracks.start.finish (past (started rfl)) .success
    | error e => exact tracks.start.finish (past (started rfl)) e.toStatus
  | write transport message compression =>
    have emitted := tracks.start.emit (past (started rfl))
      (.message message (.compressed ((transport && call.context.compression) &&
        compression.resolve (transport && call.context.compression))))
    simp only [Event.pass, Call.write, Event.incidents]
    split <;> next heq =>
      rw [heq] at emitted
      exact emitted
  | release =>
    simp only [Event.pass, Call.release, Event.incidents]
    by_cases gone : call.isCancelled = true
    · rw [if_pos gone, if_pos gone, still]
      exact tracks.start
    · rw [if_neg gone, if_neg gone]
      exact (tracks.loseClient releasedError).start
  | error e =>
    have lost := (tracks.start.arrive (.failure e)).loseClient e
    rw [List.append_assoc] at lost
    exact lost
  | receive part =>
    simp only [Event.pass, Call.receive, Event.incidents]
    cases part.tryMap method.requests.decode with
    | ok decoded => exact tracks.start.arrive (.part decoded)
    | error e =>
      have ended := (tracks.closeInbound e).start.finish (call.isPast_closeInbound e) e.toStatus
      rw [List.append_assoc] at ended
      exact ended

/-- A run keeps a call where it should be. -/
theorem tracks_run {events : List (Event σ P Req Resp)} (path : String) (shared : σ)
    (orderly : Orderly method (fresh path shared) events) :
    ((fresh path shared).run method events).Tracks method
      ((fresh path shared).incidents method events) ((fresh path shared).starts method events)
      ((fresh path shared).answers method events) := by
  induction events using List.reverseRecOn with
  | nil => exact Server.Tracks.fresh
  | append_singleton events event ih =>
    have after := (ih orderly.of_append).event event orderly.starts_ne_nil
      ((fresh path shared).answers method events ++
        (event.answer? ((fresh path shared).run method events)).toList)
    unfold Tracks
    rw [show Call.ledger _ _ ((fresh path shared).run method (events ++ [event])) = _ from
      account_concat method events event (fresh path shared), incidents_concat, run_append]
    exact after

/-- The handler is started at most once. -/
theorem length_starts_le_one {events : List (Event σ P Req Resp)} (path : String) (shared : σ)
    (orderly : Orderly method (fresh path shared) events) :
    ((fresh path shared).starts method events).length ≤ 1 :=
  (tracks_run path shared orderly).stands.length_starts_le_one

theorem starts_concat (events : List (Event σ P Req Resp)) (event : Event σ P Req Resp)
    (call : Call σ Req) :
    call.starts method (events ++ [event]) =
      call.starts method events ++ (event.pass method (call.run method events)).starts := by
  rw [starts_append]
  exact congrArg _ (List.append_nil _)

/-- Nothing starts the handler once the transport has let go of the call. -/
theorem starts_of_released (path : String) (shared : σ)
    {before after : List (Event σ P Req Resp)}
    (orderly : Orderly method (fresh path shared) (before ++ .release :: after)) :
    (fresh path shared).starts method (before ++ .release :: after) =
      (fresh path shared).starts method before := by
  by_cases begun : (fresh path shared).starts method before = []
  · -- As long as the handler was not started, nobody writes.
    rw [begun]
    induction after using List.reverseRecOn with
    | nil => exact (starts_concat before .release _).trans (by rw [begun]; rfl)
    | append_singleton after event ih =>
      have orderly' : Orderly method (fresh path shared)
          ((before ++ .release :: after) ++ [event]) := by
        rwa [List.append_assoc, List.cons_append]
      have own := orderly.released before _ rfl event (by simp)
      have quiet := mt orderly'.starts_ne_nil (not_not_intro (ih orderly'.of_append))
      rw [← List.cons_append, ← List.append_assoc, starts_concat, ih orderly'.of_append]
      cases event with
      | receive part => cases own
      | error e => cases own
      | release => cases own
      | write transport message compression => exact absurd rfl quiet
      | finish result => exact absurd rfl quiet
      | use how => rfl
      | poll => rfl
      | abandon => rfl
  · -- It was started, and is not started twice.
    have once := length_starts_le_one path shared orderly
    rw [starts_append] at once ⊢
    rw [List.length_append] at once
    have some := List.length_pos_iff.mpr begun
    have later : (((fresh path shared).run method before).starts method
        (.release :: after)).length = 0 := by omega
    rw [List.eq_nil_of_length_eq_zero later, List.append_nil]

/-- Some part is the first one that deviates. -/
theorem exists_first_deviating {call : Call σ Req} {events : List (Event σ P Req Resp)}
    {streams : Bool} {reason : Pass.Rejection}
    (deviates : Deviates streams reason (said (arrivals (call.incidents method events)))) :
    ∃ before event after, events = before ++ event :: after ∧
      (∀ reason', ¬Deviates streams reason' (said (arrivals (call.incidents method before)))) ∧
      Deviates streams reason (said (arrivals (call.incidents method (before ++ [event])))) := by
  induction events using List.reverseRecOn with
  | nil => cases deviates
  | append_singleton events event ih =>
    by_cases earlier : ∃ reason', Deviates streams reason'
        (said (arrivals (call.incidents method events)))
    · obtain ⟨reason', earlier⟩ := earlier
      have same : reason' = reason := by
        rw [incidents_concat, arrivals_append] at deviates
        obtain ⟨more, told⟩ := exists_said_append (arrivals (call.incidents method events))
          (arrivals (event.incidents method (call.run method events)))
        exact (earlier.append more).unique (told ▸ deviates)
      obtain ⟨before, first, after, split, fine, bad⟩ := ih (same ▸ earlier)
      exact ⟨before, first, after ++ [event], by rw [split]; simp, fine, bad⟩
    · exact ⟨events, event, [], rfl, not_exists.mp earlier, deviates⟩

/-- In a run of these events one end enters the chain, with this status, and here. -/
structure EndsAt (method : Method σ P Req Resp) (call : Call σ Req) (status : Status)
    (before : List (Event σ P Req Resp)) (event : Event σ P Req Resp)
    (after : List (Event σ P Req Resp)) : Prop where
  none_before : ends (call.incidents method before) = []
  here : ∃ trailers, ends (event.incidents method (call.run method before)) =
    [.finish status trailers]
  none_after : ends ((call.run method (before ++ [event])).incidents method after) = []

/-- When the first part that deviates arrives, the end enters the chain, and no other one does
before or after. -/
theorem rejects {events : List (Event σ P Req Resp)} (path : String) (shared : σ)
    (orderly : Orderly method (fresh path shared) events) {reason : Pass.Rejection}
    (deviates : Deviates method.shape.streamsRequests reason
      (said (arrivals ((fresh path shared).incidents method events)))) :
    ∃ before event after, events = before ++ event :: after ∧
      (∀ reason', ¬Deviates method.shape.streamsRequests reason'
        (said (arrivals ((fresh path shared).incidents method before)))) ∧
      Deviates method.shape.streamsRequests reason
        (said (arrivals ((fresh path shared).incidents method (before ++ [event])))) ∧
      EndsAt method (fresh path shared) reason.status before event after := by
  obtain ⟨before, event, after, rfl, fine, bad⟩ := exists_first_deviating deviates
  have whole : before ++ event :: after = (before ++ [event]) ++ after := by simp
  have at_before := tracks_run path shared orderly.of_append
  have at_event := tracks_run path shared (whole ▸ orderly).of_append
  -- What is past the start of the handler has deviated already, if it ever does.
  have early : ((fresh path shared).run method before).inbound.isPast = false := by
    cases past : ((fresh path shared).run method before).inbound.isPast with
    | false => rfl
    | true =>
      rw [incidents_concat, arrivals_append] at bad
      exact absurd (at_before.stands.deviates_of_isPast past _ bad) (fine reason)
  have unended := at_before.ends_eq_nil early
  obtain ⟨trailers, one⟩ := at_event.rejected reason bad
  obtain ⟨trailers', all⟩ := (tracks_run path shared orderly).rejected reason deviates
  refine ⟨before, event, after, rfl, fine, bad, unended, ⟨trailers, ?_⟩, ?_⟩
  · rwa [incidents_concat, ends_append, unended, List.nil_append] at one
  · rw [whole, incidents_append, ends_append, one] at all
    exact (List.cons.inj all).2

end Call

end RemoteCall.Server
