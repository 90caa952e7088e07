import RemoteCall.Proofs.Server.Gate
import RemoteCall.Proofs.Server.Silence

/-!
# Silence once the client is gone, step by step

The loss of a client closes the request side, suppresses the output and cancels the scope, one
after the other. Once it has come back, all three hold for good, whatever overlapped with it
(`isShut_of_loses`). Then everything that comes to the outbound gate is refused; only an emission
that is behind it already may still hand something over. A stream of requests that was being fed
is finished as soon as everybody has returned, with the messages that wait in it kept
(`Overlap.Silenced`).
-/

namespace RemoteCall.Server

open Routine

variable {σ P Req Resp S : Type} {floor floor' : Floor σ P Req Resp} {place : Place}

/-! ### The three marks of the loss -/

namespace Floor

theorem Step.closed (step : Step place floor floor') (closed : floor.call.inbound = .closed) :
    floor'.call.inbound = .closed := by
  cases step with
  | advance streams part =>
    show (Pass.advance streams floor.call part).1.inbound = .closed
    rwa [Pass.advance_of_over (Or.inr closed)]
  | shut => rfl
  | _ => exact closed

theorem Step.suppressed (step : Step place floor floor')
    (suppressed : floor.call.suppressed = true) : floor'.call.suppressed = true := by
  cases step with
  | advance streams part => exact (suppressed_advance streams floor.call part).trans suppressed
  | suppress => rfl
  | _ => exact suppressed

theorem Step.cancelled (step : Step place floor floor')
    (cancelled : floor.call.isCancelled = true) : floor'.call.isCancelled = true := by
  cases step with
  | advance streams part =>
    exact (Pass.isCancelled_advance streams floor.call part).trans cancelled
  | cancel => rfl
  | use how => cases how <;> exact cancelled
  | _ => exact cancelled

end Floor

/-- Whether the client is lost with an event that comes back with this. -/
def Event.Loses : Event σ P Req Resp → Yield → Prop
  | error _, _ => True
  | release, yielded => yielded = .released true
  | _, _ => False

/-- What every loss of the client comes to, such an event has come to when it returns. -/
theorem Event.attains_steps {goal : Floor σ P Req Resp → Prop}
    (loses : ∀ e, (Steps.loseClient e : Steps.On σ P Req Resp _).Owes goal)
    (method : Method σ P Req Resp) (event : Event σ P Req Resp) :
    (event.steps method).Attains goal event.Loses := by
  cases event with
  | error e => exact Owes.bind (Attains.behind _ fun _ => loses e) _
  | release =>
    refine Attains.bind (Q := (· = true)) (Attains.behind _ fun cancelled => ?_)
      fun lost stays => ?_
    · cases cancelled with
      | true => exact Bool.false_ne_true
      | false => exact Owes.bind (loses _) _
    · rintro released
      cases released
      exact stays rfl
  | _ => exact attains_of_none (fun _ => id) _

theorem Steps.owes_onCall {goal : Floor σ P Req Resp → Prop} {f : Call σ Req → Call σ Req}
    (reached : ∀ floor : Floor σ P Req Resp, goal (floor.mapCall f)) : (onCall f).Owes goal :=
  owes_act reached

theorem Steps.owes_closed (e : CallError) : (loseClient e : On σ P Req Resp _).Owes
    fun floor => floor.call.inbound = .closed := by
  have closes : (closeInbound e : On σ P Req Resp _).Owes
      fun floor => floor.call.inbound = .closed := fun _ _ => Or.inl rfl
  exact closes.bind _

theorem Steps.owes_suppressed (e : CallError) : (loseClient e : On σ P Req Resp _).Owes
    fun floor => floor.call.suppressed = true :=
  Attains.behind _ fun _ => (owes_onCall fun _ => rfl).bind _

theorem Steps.owes_cancelled (e : CallError) : (loseClient e : On σ P Req Resp _).Owes
    fun floor => floor.call.isCancelled = true :=
  Attains.behind _ fun _ => Attains.behind _ fun _ => (owes_onCall fun _ => rfl).bind _

namespace Overlap

variable (method : Method σ P Req Resp) (path : String) (shared : σ)
  (turns : List (Crowd.Turn (Event σ P Req Resp)))

/-- What every loss comes to and no step undoes, holds as soon as one has returned. -/
theorem reached_of_loses {goal : Floor σ P Req Resp → Prop}
    (loses : ∀ e, (Steps.loseClient e : Steps.On σ P Req Resp _).Owes goal)
    (spares : ∀ place floor floor', Floor.Step place floor floor' → goal floor → goal floor')
    {event : Event σ P Req Resp} {yielded : Yield}
    (returned : (run method path shared turns).Returned event yielded)
    (loss : event.Loses yielded) : goal (run method path shared turns).state :=
  (Crowd.Bound.after (Event.keeps_steps spares method) (Event.attains_steps loses method)
    ⟨keep_fresh trivial, Or.inr (List.forall_mem_nil _)⟩ turns).returned returned loss

/-- A loss that has come back has shut the call, whatever overlapped with it. -/
theorem isShut_of_loses {event : Event σ P Req Resp} {yielded : Yield}
    (returned : (run method path shared turns).Returned event yielded)
    (loss : event.Loses yielded) : (run method path shared turns).state.call.IsShut where
  suppressed := reached_of_loses method path shared turns Steps.owes_suppressed
    (fun _ _ _ => Floor.Step.suppressed) returned loss
  cancelled := reached_of_loses method path shared turns Steps.owes_cancelled
    (fun _ _ _ => Floor.Step.cancelled) returned loss
  closed := reached_of_loses method path shared turns Steps.owes_closed
    (fun _ _ _ => Floor.Step.closed) returned loss

end Overlap

/-! ### The stream of requests -/

namespace Floor

/-- What a step does to the stream of requests. -/
inductive Tends (floor floor' : Floor σ P Req Resp) : Prop
  | leaves (requests : floor'.call.requests = floor.call.requests)
      (answers : floor'.answers = floor.answers)
  | pushes (message : Req) (requests : floor'.call.requests = (floor.call.requests.push message).2)
      (answers : floor'.answers = floor.answers)
  /-- Only an end that arrives finishes the stream without an error. -/
  | finishes (outcome : Result Unit)
      (requests : floor'.call.requests = (floor.call.requests.finishWith outcome).2)
      (answers : floor'.answers = floor.answers)
      (arrives : outcome = .ok () → .arrives .finish ∈ floor'.acts)
  | pulls (requests : floor'.call.requests = floor.call.requests.pull.2)
      (answers : floor'.answers = floor.answers ++ [floor.call.requests.pull.1])
  | abandons (requests : floor'.call.requests = floor.call.requests.abandon)
      (answers : floor'.answers = floor.answers)

theorem tends_advance (streams : Bool) (part : RequestPart Req) (floor : Floor σ P Req Resp) :
    Tends floor ((floor.mapCall fun call => (Pass.advance streams call part).1).log
      (.arrives part)) := by
  have said : ∀ call : Call σ Req,
      .arrives part ∈ ((floor.mapCall fun _ => call).log (.arrives part)).acts := fun _ =>
    List.mem_append_right _ (List.mem_singleton.mpr rfl)
  have leaves : (Pass.advance streams floor.call part).1.requests = floor.call.requests →
      Tends floor ((floor.mapCall fun call => (Pass.advance streams call part).1).log
        (.arrives part)) := fun same => .leaves same rfl
  cases at_ : floor.call.inbound with
  | streaming =>
    cases part with
    | headers m => exact leaves (by simp only [Pass.advance, at_])
    | message a flags => exact .pushes a (by simp only [log, mapCall, Pass.advance, at_]) rfl
    | finish =>
      exact .finishes (.ok ()) (by simp only [log, mapCall, Pass.advance, at_]) rfl
        fun _ => said _
  | idle => cases part <;> cases streams <;> exact leaves (by simp [Pass.advance, at_])
  | awaiting => cases part <;> exact leaves (by simp only [Pass.advance, at_])
  | holding message => cases part <;> exact leaves (by simp only [Pass.advance, at_])
  | running => cases part <;> exact leaves (by simp only [Pass.advance, at_])
  | closed => cases part <;> exact leaves (by simp only [Pass.advance, at_])

theorem Step.tends (step : Step place floor floor') : Tends floor floor' := by
  cases step with
  | advance streams part => exact tends_advance streams part floor
  | poll => exact .pulls rfl rfl
  | abandon => exact .abandons rfl rfl
  | failRequests e => exact .finishes (.error e) rfl rfl nofun
  | _ => exact .leaves rfl rfl

theorem Step.acts_prefix (step : Step place floor floor') : floor.acts <+: floor'.acts := by
  cases step with
  | advance streams part => exact List.prefix_append _ _
  | takeTrailers status => exact List.prefix_append _ _
  | use how => exact List.prefix_append _ _
  | takeHeaders => exact List.prefix_append _ _
  | pass part => exact List.prefix_append _ _
  | _ => exact List.prefix_refl _

/-- Only where the request side is closed, its stream is no longer fed and not finished yet. -/
theorem Step.stops (step : Step place floor floor') (apart : place ≠ .closing)
    (stops : floor'.call.inbound ≠ .streaming) :
    floor.call.inbound ≠ .streaming ∨ floor'.call.requests.isFinished = true := by
  cases step with
  | advance streams part =>
    refine or_iff_not_imp_left.mpr fun fed => ?_
    have fed := not_not.mp fed
    cases part with
    | finish =>
      show (Pass.advance streams floor.call .finish).1.requests.isFinished = true
      simp [Pass.advance, fed]
    | headers m => exact absurd (by simp [log, mapCall, Pass.advance, fed]) stops
    | message a flags => exact absurd (by simp [log, mapCall, Pass.advance, fed]) stops
  | shut => exact absurd rfl apart
  | failRequests e => exact absurd rfl apart
  | _ => exact Or.inl stops

/-- As long as nobody leaves the stream, it is there for its consumer, and it is finished without an
error only if an end has arrived. -/
structure Feeds (floor : Floor σ P Req Resp) : Prop where
  whole : floor.call.requests.produced = true → floor.call.requests.Whole
  arrives : floor.call.requests.ending = some (.ok ()) → .arrives .finish ∈ floor.acts

theorem Step.feeds (step : Step place floor floor') (feeds : floor.Feeds) : floor'.Feeds := by
  have keeps : ∀ act, act ∈ floor.acts → act ∈ floor'.acts := fun act mem =>
    step.acts_prefix.subset mem
  cases step.tends with
  | leaves requests answers =>
    refine ⟨fun produced => ?_, fun finished => keeps _ ?_⟩
    · rw [requests] at produced ⊢
      exact feeds.whole produced
    · rw [requests] at finished
      exact feeds.arrives finished
  | pushes message requests answers =>
    refine ⟨fun produced => ?_, fun finished => keeps _ ?_⟩
    · rw [requests, MessageStream.produced_push] at produced
      rw [requests]
      exact (feeds.whole produced).push message
    · rw [requests, MessageStream.ending_push] at finished
      exact feeds.arrives finished
  | finishes outcome requests answers arrives =>
    refine ⟨fun produced => ?_, fun finished => ?_⟩
    · rw [requests, MessageStream.produced_finishWith] at produced
      rw [requests]
      exact (feeds.whole produced).finishWith outcome
    · rw [requests, MessageStream.ending_finishWith] at finished
      cases before : floor.call.requests.ending with
      | none =>
        rw [before] at finished
        exact arrives (Option.some.inj finished)
      | some outcome' =>
        rw [before] at finished
        exact keeps _ (feeds.arrives (before.trans finished))
  | pulls requests answers =>
    refine ⟨fun produced => ?_, fun finished => keeps _ ?_⟩
    · rw [requests, MessageStream.produced_pull] at produced
      rw [requests]
      exact (feeds.whole produced).pull
    · rw [requests, MessageStream.ending_pull] at finished
      exact feeds.arrives finished
  | abandons requests answers =>
    refine ⟨fun produced => ?_, fun finished => keeps _ ?_⟩
    · rw [requests] at produced
      cases produced
    · rw [requests] at finished
      exact feeds.arrives finished

theorem Step.finished (step : Step place floor floor')
    (finished : floor.call.requests.isFinished = true) :
    floor'.call.requests.isFinished = true := by
  cases step.tends with
  | leaves requests answers => rwa [requests]
  | pushes message requests answers => rwa [requests, MessageStream.push_of_isFinished finished]
  | finishes outcome requests answers arrives =>
    rwa [requests, MessageStream.finishWith_of_isFinished finished]
  | pulls requests answers => rwa [requests, MessageStream.isFinished_pull]
  | abandons requests answers => rwa [requests]

/-- What polls answer from here on: the messages that wait, and then the end. -/
structure Answers (waiting : List Req) (outcome : Result Unit) (n : Nat)
    (floor : Floor σ P Req Resp) : Prop where
  finished : floor.call.requests.isFinished = true
  yields : ∃ answered, floor.answers.length = n + answered ∧
    floor.call.requests.Yields (waiting.drop answered) (some outcome)
  answers : ∀ i answer, floor.answers[n + i]? = some answer →
    answer = MessageStream.offer (waiting.drop i) (some outcome)

theorem Step.answers {waiting : List Req} {outcome : Result Unit} {n : Nat}
    (step : Step place floor floor') (begun : floor.Answers waiting outcome n) :
    floor'.Answers waiting outcome n := by
  obtain ⟨answered, count, yields⟩ := begun.yields
  have finished := step.finished begun.finished
  have same : floor'.answers = floor.answers →
      floor'.call.requests.Yields (waiting.drop answered) (some outcome) →
      floor'.Answers waiting outcome n := fun answers yields => by
    refine ⟨finished, ⟨answered, by rw [answers]; exact count, yields⟩, ?_⟩
    rw [answers]
    exact begun.answers
  cases step.tends with
  | leaves requests answers => exact same answers (by rwa [requests])
  | pushes message requests answers =>
    exact same answers (by rwa [requests, MessageStream.push_of_isFinished begun.finished])
  | finishes outcome requests answers arrives =>
    exact same answers (by rwa [requests, MessageStream.finishWith_of_isFinished begun.finished])
  | abandons requests answers => exact same answers (by rw [requests]; exact yields.abandon)
  | pulls requests answers =>
    obtain ⟨first, later⟩ := yields.pull
    refine ⟨finished, ⟨answered + 1, ?_, ?_⟩, fun i answer found => ?_⟩
    · rw [answers, List.length_append, count]
      rfl
    · rw [requests]
      rwa [List.tail_drop] at later
    · rw [answers] at found
      rcases Nat.lt_or_ge (n + i) floor.answers.length with old | new
      · rw [List.getElem?_append_left old] at found
        exact begun.answers i answer found
      · rw [List.getElem?_append_right new, List.getElem?_singleton] at found
        obtain ⟨last, this⟩ := Option.ite_none_right_eq_some.mp found
        obtain rfl : i = answered := by omega
        exact (Option.some.inj this).symm.trans first

end Floor

/-- The stream of requests is not fed any more. -/
def Floor.Stopped (floor : Floor σ P Req Resp) : Prop := floor.call.inbound ≠ .streaming

def Floor.Finished (floor : Floor σ P Req Resp) : Prop :=
  floor.call.requests.isFinished = true

theorem Steps.prompts_closeInbound (e : CallError) :
    (closeInbound e : On σ P Req Resp Unit).Prompts Floor.Stopped Floor.Finished := by
  intro floor _
  have fails : (onCall (Call.failRequests e) : On σ P Req Resp Unit).Owes Floor.Finished :=
    owes_onCall fun floor => MessageStream.isFinished_finishWith _ _
  have fails' : (onCall (Call.failRequests e) : On σ P Req Resp Unit).Prompts Floor.Stopped
      Floor.Finished := fun _ _ => ⟨Or.inl, trivial⟩
  show (_ → _ ∨ _ ∨ (if floor.call.inbound.feeds then onCall (Call.failRequests e)
      else return : On σ P Req Resp Unit).Owes _) ∧
    (if floor.call.inbound.feeds then onCall (Call.failRequests e)
      else return : On σ P Req Resp Unit).Prompts _ _
  by_cases feeds : floor.call.inbound.feeds = true
  · rw [if_pos feeds]
    exact ⟨fun _ => Or.inr (Or.inr fails), fails'⟩
  · rw [if_neg feeds]
    refine ⟨fun _ => Or.inl fun streaming => feeds ?_, trivial⟩
    rw [streaming]
    rfl

/-- Whoever closes the request side sees to it that a stream that was being fed is finished. -/
theorem Event.prompts_finished (method : Method σ P Req Resp) (event : Event σ P Req Resp) :
    (event.steps method).Prompts Floor.Stopped Floor.Finished := by
  have covers : ∀ {place : Place}, place ≠ .closing →
      Covers (Floor.Step place : Floor σ P Req Resp → Floor σ P Req Resp → Prop) fun _ r =>
        r.Prompts Floor.Stopped Floor.Finished := fun apart =>
    covers_prompts fun floor floor' step => step.stops apart
  have transports := Steps.covers_toTransport method (covers nofun) (covers nofun)
  have sends := Steps.covers_send method (covers nofun) Steps.prompts_closeInbound (covers nofun)
    transports
  have emits := Steps.covers_emit method (covers nofun) (covers nofun) sends (covers nofun)
  exact Event.covers_steps method (covers nofun) Steps.prompts_closeInbound event
    (fun _ _ _ => emits _)
    (fun status _ => Steps.covers_finish method (covers nofun) (covers nofun) status
      fun _ => emits _)
    (Or.inr transports)

/-! ### Silence -/

namespace Overlap

variable (method : Method σ P Req Resp) (path : String) (shared : σ)

/-- What follows the loss of the client that has come back after these turns, whatever happens
`later`. -/
structure Silenced (turns later : List (Crowd.Turn (Event σ P Req Resp))) : Prop where
  /-- If no emission is under way, nothing more is handed to the transport. -/
  nothing : (run method path shared turns).state.emitting = false →
    (run method path shared (turns ++ later)).state.parts =
      (run method path shared turns).state.parts
  cancelled : (run method path shared (turns ++ later)).state.call.isCancelled = true
  /-- Every write that begins now is refused. -/
  refuses : ∀ i transport message compression yielded,
    (run method path shared turns).routines.length ≤ i →
    (run method path shared (turns ++ later)).routines[i]? =
      some (.write transport message compression, .done yielded) →
    yielded = .written (.error .streamAlreadyClosed)
  /-- A stream of requests that was being fed at some time is finished once everybody has returned,
  if nobody has left it: with an error, unless the end of the request has arrived. Every poll gives
  the next message that waits, and the end once there are no more. -/
  requests : ∀ first second, turns = first ++ second →
    (run method path shared first).state.call.inbound = .streaming →
    (run method path shared (turns ++ later)).Settled →
    (run method path shared (turns ++ later)).state.call.requests.produced = true →
    ∃ waiting outcome,
      (run method path shared (turns ++ later)).state.call.requests.Holds waiting
        (some outcome) ∧
      (outcome = .ok () →
        .arrives .finish ∈ (run method path shared (turns ++ later)).state.acts) ∧
      ∀ further n answer,
        (run method path shared (turns ++ later ++ further)).state.answers[
          (run method path shared (turns ++ later)).state.answers.length + n]? = some answer →
        answer = MessageStream.offer (waiting.drop n) (some outcome)

variable {method path shared}

theorem feeds_run (turns : List (Crowd.Turn (Event σ P Req Resp))) :
    (run method path shared turns).state.Feeds :=
  keeps_run (fun _ _ _ => Floor.Step.feeds) [] turns
    ⟨fun _ => ⟨_, _, MessageStream.holds_fresh⟩, nofun⟩

/-- A stream that was being fed at some time is finished, once it is not fed any more and everybody
has returned. -/
theorem finished_run (first second : List (Crowd.Turn (Event σ P Req Resp)))
    (fed : (run method path shared first).state.call.inbound = .streaming)
    (settled : (run method path shared (first ++ second)).Settled)
    (stopped : (run method path shared (first ++ second)).state.Stopped) :
    (run method path shared (first ++ second)).state.Finished := by
  have spares := Event.keeps_steps (fun _ _ _ => Floor.Step.finished) method
  have prompting : (run method path shared first).Prompting Floor.Stopped Floor.Finished :=
    Crowd.Prompting.after spares (Event.prompts_finished method)
      ⟨keep_fresh trivial, List.forall_mem_nil _⟩ first
  have pending : (run method path shared first).Pending Floor.Stopped Floor.Finished :=
    ⟨prompting, fun stopped => absurd fed stopped⟩
  have later := pending.after spares (Event.prompts_finished method) second
  rw [run_append] at settled stopped ⊢
  exact later.settled settled stopped

/-- Once the client is lost and nobody is behind the gate, nobody hands anything over. -/
theorem parts_of_lost (quiet : method.chain.SendsNothingBack)
    {turns : List (Crowd.Turn (Event σ P Req Resp))}
    (lost : (run method path shared turns).state.call.suppressed = true)
    (free : (run method path shared turns).state.emitting = false)
    (later : List (Crowd.Turn (Event σ P Req Resp))) :
    (run method path shared (turns ++ later)).state.parts =
      (run method path shared turns).state.parts := by
  have stands := (guarded quiet path shared turns).stands free
  have keep : (run method path shared turns).Keep gate.calm gate.still fun _ _ _ => True :=
    ⟨lost, fun i event r found => (stands _ (List.mem_of_getElem? found)).keeps⟩
  rw [run_append]
  exact (keep.after (fun _ event => (Event.stands_steps quiet event).keeps)
    (fun _ _ _ moved => moved.2) (fun _ lost => ⟨rfl, lost⟩)
    (fun _ _ _ first second => ⟨second.1.trans first.1, second.2⟩) later).2.1

/-- Once the client is lost, every write that begins is refused. -/
theorem refused_of_lost {turns later : List (Crowd.Turn (Event σ P Req Resp))}
    (lost : (run method path shared turns).state.call.suppressed = true) {i : Nat}
    {transport : Bool} {message : Resp} {compression : Compression} {yielded : Yield}
    (begun : (run method path shared turns).routines.length ≤ i)
    (returned : (run method path shared (turns ++ later)).routines[i]? =
      some (.write transport message compression, .done yielded)) :
    yielded = .written (.error .streamAlreadyClosed) := by
  let Refused (i : Nat) (event : Event σ P Req Resp) (yielded : Yield) : Prop :=
    (run method path shared turns).routines.length ≤ i →
      (∃ transport message compression, event = .write transport message compression) →
      yielded = .written (.error .streamAlreadyClosed)
  have stays := Event.keeps_steps (fun _ _ _ => Floor.Step.suppressed) method
  have begins : ∀ i event, (Event.steps method event).Keeps gate.calm (fun _ => gate.calm)
      (Refused i event) := by
    intro i event
    cases event with
    | write transport message compression =>
      have reads : (Routine.read fun floor : Floor σ P Req Resp =>
          transport && floor.call.context.compression).Keeps gate.calm (fun _ => gate.calm)
          fun _ => True := fun _ lost _ => ⟨lost, trivial⟩
      have refused := fun part => (Steps.refused_emit method part).mono (fun _ => id)
        (fun _ _ _ still => still.2) fun _ => id
      refine Keeps.bind (reads.bind fun _ _ => refused _) fun result same => ?_
      exact fun _ _ => congrArg Yield.written same
    | _ =>
      exact (stays _).mono (fun _ _ => trivial) (fun _ _ lost stays => stays lost)
        fun _ _ _ isWrite => by obtain ⟨_, _, _, same⟩ := isWrite; cases same
  have keep : (run method path shared turns).Keep gate.calm (fun _ => gate.calm) Refused := by
    refine ⟨lost, fun i event r found => ?_⟩
    refine ((keep_run (fun _ _ _ => Floor.Step.suppressed) turns).routines i event r found).mono
      (fun _ _ => trivial) (fun _ _ lost stays => stays lost) fun _ _ behind => ?_
    exact absurd (List.getElem?_eq_some_iff.mp found).1 (Nat.not_lt.mpr behind)
  rw [run_append] at returned
  exact (keep.after begins (fun _ _ _ => id) (fun _ => id) (fun _ _ _ _ => id) later).1.routines
    i _ _ returned begun ⟨_, _, _, rfl⟩

/-- A call that has lost its client stays silent. -/
theorem silenced_of_loses (quiet : method.chain.SendsNothingBack)
    {turns : List (Crowd.Turn (Event σ P Req Resp))} {event : Event σ P Req Resp} {yielded : Yield}
    (returned : (run method path shared turns).Returned event yielded)
    (loss : event.Loses yielded) (later : List (Crowd.Turn (Event σ P Req Resp))) :
    Silenced method path shared turns later := by
  have shut := isShut_of_loses method path shared turns returned loss
  refine ⟨fun free => parts_of_lost quiet shut.suppressed free later,
    keeps_run (fun _ _ _ => Floor.Step.cancelled) turns later shut.cancelled,
    fun i transport message compression yielded => refused_of_lost shut.suppressed, ?_⟩
  intro first second split fed settled produced
  have closed := keeps_run (fun _ _ _ => Floor.Step.closed) turns later shut.closed
  have feeds : (run method path shared (turns ++ later)).state.Feeds := feeds_run _
  have finished : (run method path shared (turns ++ later)).state.Finished := by
    rw [split, List.append_assoc] at settled closed ⊢
    refine finished_run first (second ++ later) fed settled ?_
    unfold Floor.Stopped
    rw [closed]
    nofun
  obtain ⟨waiting, final, holds⟩ := feeds.whole produced
  obtain ⟨outcome, rfl⟩ : ∃ outcome, final = some outcome := by
    rw [← holds.ending]
    exact Option.isSome_iff_exists.mp finished
  refine ⟨waiting, outcome, holds, fun clean => feeds.arrives (by rw [holds.ending, clean]), ?_⟩
  intro further n answer answered
  have begins : (run method path shared (turns ++ later)).state.Answers waiting outcome
      (run method path shared (turns ++ later)).state.answers.length :=
    ⟨finished, ⟨0, rfl, holds.yields⟩, fun i answer found => by
      rw [List.getElem?_eq_none (Nat.le_add_right _ _)] at found
      cases found⟩
  exact (keeps_run (fun _ _ _ => Floor.Step.answers) (turns ++ later) further begins).answers n
    answer answered

end Overlap

/-- A call that has lost its client says nothing more, whoever its handler is, whatever the
interceptors make of the failure, and whatever happens afterwards: if the operations come one after
the other, and also if they overlap. -/
theorem silent_without_client (method : Method σ P Req Resp)
    (quiet : method.chain.SendsNothingBack) (path : String) (shared : σ) :
    (∀ (handler : Handler σ Req Resp S) (compression : Bool)
      (before : List (Move σ P Req Resp)) (loss : Move σ P Req Resp),
      ((Serving.fresh method handler compression path shared).run before).Loses loss →
      ∀ later, (Serving.fresh method handler compression path shared).Silenced
        (before ++ [loss]) later) ∧
    (∀ (turns : List (Crowd.Turn (Event σ P Req Resp))) (event : Event σ P Req Resp)
      (yielded : Yield), (Overlap.run method path shared turns).Returned event yielded →
      event.Loses yielded → ∀ later, Overlap.Silenced method path shared turns later) :=
  ⟨fun handler compression => Serving.silent_once_lost method quiet handler compression path shared,
    fun _ _ _ => Overlap.silenced_of_loses quiet⟩

namespace Parrot

/-- A conversation behind an interceptor that does this about failures. -/
def behind (failure : Hook Unit (ResponsePart String) (RequestPart String)) :
    Method Unit (Option String) String String where
  shape := .bidirectional
  chain := { interceptors := [{ failure := fun _ _ => failure }] }
  requests := .optional
  responses := .optional

/-- Returns every text that it gets. -/
def handler : Handler Unit String String (Option (Result (Option String))) where
  start _ _ := none
  wish
    | none => .pull some
    | some (.ok (some text)) => .write text .deferred fun _ => none
    | some (.ok none) => .finish (.ok none)
    | some (.error e) => .finish (.error e)

def served (failure : Hook Unit (ResponsePart String) (RequestPart String)) :
    Serving Unit (Option String) String String (Option (Result (Option String))) :=
  .fresh (behind failure) handler false "/echo.Echo/Chat" ()

def move : Move Unit (Option String) String String := .task 0 fun _ => .waiting

/-- The handler has been started and a text waits for it, when the client is lost. -/
def before : List (Move Unit (Option String) String String) :=
  [.receive (.headers .empty), .receive (.message (some "one") {}), move]

def later : List (Move Unit (Option String) String String) :=
  [.receive (.message (some "late") {}), .receive (.message none {}), .release] ++
    List.replicate 8 move

/-- The same, up to the loss, on several threads: the text arrives while the client is lost. -/
def turns : List (Crowd.Turn (Event Unit (Option String) String String)) :=
  .begin (.receive (.headers .empty)) :: List.replicate 4 (.go 0) ++
    [.begin (.receive (.message (some "one") {})), .go 1, .begin (.error .cancelled), .go 2, .go 1,
      .go 1] ++
    List.replicate 8 (.go 2)

theorem sendsNothingBack {failure : Hook Unit (ResponsePart String) (RequestPart String)}
    (only : failure.Passes fun _ => True) : (behind failure).chain.SendsNothingBack := by
  intro i mem site arrival allowed
  rw [List.mem_singleton.mp mem]
  cases arrival with
  | part part => exact ⟨trivial, trivial⟩
  | failure e => exact only

/-- A handler that goes on after a failure that the interceptor keeps to itself says nothing more,
and reads what came before it. -/
theorem silent_after_swallowed_failure :
    (behind .done).chain.SendsNothingBack ∧
    ((served .done).run before).Loses (.error .cancelled) ∧
    (served .done).Silenced (before ++ [.error .cancelled]) later ∧
    (served .done).starts (before ++ [.error .cancelled]) = [none] ∧
    ((served .done).run (before ++ [.error .cancelled])).answers later =
      [.ready (.ok (some "one")), .ready (.error .cancelled)] ∧
    (Overlap.run (behind .done) "/echo.Echo/Chat" () turns).Returned (.error .cancelled) .nothing ∧
    Overlap.Silenced (behind .done) "/echo.Echo/Chat" () turns [.begin .poll, .go 3] ∧
    (Overlap.run (behind .done) "/echo.Echo/Chat" ()
      (turns ++ [.begin .poll, .go 3, .begin .poll, .go 4])).state.answers =
        [.ready (.ok (some "one")), .ready (.error .cancelled)] := by
  have quiet : (behind .done).chain.SendsNothingBack := sendsNothingBack trivial
  have loses : ((served .done).run before).Loses (.error .cancelled) := rfl
  have returned : (Overlap.run (behind .done) "/echo.Echo/Chat" () turns).Returned
      (.error .cancelled) .nothing := List.mem_of_getElem? (i := 2) rfl
  have silent := silent_without_client (S := Option (Result (Option String))) (behind .done) quiet
    "/echo.Echo/Chat" ()
  exact ⟨quiet, loses, silent.1 handler false before _ loses later, rfl, rfl, returned,
    silent.2 turns _ _ returned trivial _, rfl⟩

/-- An interceptor may also tell the handler that the client has sent everything. Then the stream
that the client has not finished ends without an error. -/
theorem clean_end_after_failure :
    (behind (.receive .finish .done)).chain.SendsNothingBack ∧
    ((served (.receive .finish .done)).run before).Loses (.error .cancelled) ∧
    ((served (.receive .finish .done)).run before).call.requests.isFinished = false ∧
    ((served (.receive .finish .done)).run (before ++ [.error .cancelled])).answers later =
      [.ready (.ok (some "one")), .ready (.ok none)] :=
  ⟨sendsNothingBack ⟨trivial, trivial⟩, rfl, rfl, rfl⟩

/-- An emission that was let in before the client was lost goes on behind it. -/
def overtaken : List (Crowd.Turn (Event Unit (Option String) String String)) :=
  .begin (.receive (.headers .empty)) :: List.replicate 4 (.go 0) ++
    .begin (.write false "one" .deferred) :: List.replicate 3 (.go 1) ++
    .begin (.error .cancelled) :: List.replicate 8 (.go 2)

theorem part_follows_loss :
    (Overlap.run (behind .done) "/echo.Echo/Chat" () overtaken).Returned (.error .cancelled)
      .nothing ∧
    (Overlap.run (behind .done) "/echo.Echo/Chat" () overtaken).state.parts = [] ∧
    (Overlap.run (behind .done) "/echo.Echo/Chat" ()
      (overtaken ++ List.replicate 10 (.go 1))).state.parts =
        [.headers .empty, .message (some "one") (.compressed false)] :=
  ⟨List.mem_of_getElem? (i := 2) rfl, rfl, rfl⟩

end Parrot

end RemoteCall.Server
