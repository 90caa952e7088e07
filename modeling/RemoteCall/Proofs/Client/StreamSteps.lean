import RemoteCall.Proofs.Client.Floor
import RemoteCall.Proofs.Client.StreamOutcome

/-!
# The response stream and the status, step by step

An ending reaches the response first and the status later, each in a step of its own, and in each of
them the first one counts. So when operations overlap, the stream still follows what has reached the
response (`Floor.Follows`); but the status follows the ending that has reached the status first
(`Floor.Ruled`), and that may be another one (`Racing.status_of_another_ending`). It is one that has
reached the response before (`Floor.Founded`). If nothing overlaps, the two are the same
(`streams_first_ending`).
-/

namespace RemoteCall.Client

variable {σ P Req Resp : Type}

namespace Floor

variable {floor floor' : Floor σ P Resp} {shown waiting : List Resp}

/-- Of the messages that have reached the response before its first ending, polls have shown these,
and the others wait in the stream. Behind them polls show that ending. -/
structure Follows (floor : Floor σ P Resp) (shown waiting : List Resp) : Prop where
  stream : ∃ s, floor.call.accumulator.response = .stream s ∧
    s.Holds waiting ((History.ending? floor.history).map Ending.outcome)
  messages : History.messages floor.history = shown ++ waiting
  answers : ∃ further, floor.answers.filter Poll.isReady =
      shown.map (fun m => .ready (.ok (some m))) ++ further ∧
    ∀ answer ∈ further, waiting = [] ∧ ∃ ending, History.ending? floor.history = some ending ∧
      answer = .ready (MessageStream.ofEnding ending.outcome)

theorem Follows.take (follows : floor.Follows shown waiting)
    (arrival : Arrival (ResponsePart Resp))
    (taken : ∀ s, floor.call.accumulator.response = .stream s →
      floor'.call.accumulator.response = .stream (s.take arrival))
    (logged : floor'.history = floor.history ++ [arrival])
    (answers : floor'.answers = floor.answers) : ∃ left, floor'.Follows shown left := by
  obtain ⟨⟨s, same, holds⟩, messages, further, shows, ends⟩ := follows
  obtain ⟨left, later, told, kept⟩ := holds.take messages arrival
  refine ⟨left, ⟨⟨s.take arrival, taken s same, ?_⟩, ?_, further, ?_, fun answer mem => ?_⟩⟩
  · rwa [logged]
  · rwa [logged]
  · rwa [answers]
  · obtain ⟨nothing, ending, ended, answered⟩ := ends answer mem
    rw [kept (Option.isSome_of_mem ended), logged]
    exact ⟨nothing, ending, (History.append_of_ended ended [arrival]).1, answered⟩

theorem Follows.poll (follows : floor.Follows shown waiting) :
    floor.call.pull.1 = Accumulator.expected waiting (History.ending? floor.history) ∧
      ∃ shown waiting, floor.poll.Follows shown waiting := by
  obtain ⟨⟨s, same, holds⟩, messages, further, shows, ends⟩ := follows
  have isStream : floor.call.accumulator = ⟨floor.call.accumulator.outcome, .stream s⟩ := by
    rw [← same]
  obtain ⟨answer, later⟩ := Call.pull_of_stream isStream
  have response : floor.poll.call.accumulator.response = .stream s.pull.2 :=
    congrArg Accumulator.response later
  have expected := Accumulator.pull_of_holds holds
  have answers : floor.poll.answers.filter Poll.isReady = floor.answers.filter Poll.isReady ++
      [Accumulator.expected waiting (History.ending? floor.history)].filter Poll.isReady := by
    rw [← expected, ← answer]
    exact List.filter_append ..
  refine ⟨answer.trans expected, ?_⟩
  cases waiting with
  | cons m rest =>
    have none : further = [] := List.eq_nil_iff_forall_not_mem.mpr fun answer mem =>
      absurd (ends answer mem).1 nofun
    refine ⟨shown ++ [m], rest, ⟨s.pull.2, response, holds.pull_item.2⟩, ?_, [], ?_, nofun⟩
    · exact messages.trans (List.append_cons ..)
    · rw [answers, shows, none, List.map_append, List.append_nil, List.append_nil]
      rfl
  | nil =>
    cases ended : History.ending? floor.history with
    | none =>
      rw [ended] at holds answers
      refine ⟨shown, [], ⟨s.pull.2, response, ?_⟩, messages, further, ?_, ends⟩
      · show s.pull.2.Holds [] ((History.ending? floor.history).map Ending.outcome)
        rw [ended]
        exact holds.pull_nothing.2
      · exact answers.trans ((List.append_nil _).trans shows)
    | some ending =>
      rw [ended] at holds answers
      refine ⟨shown, [], ⟨s.pull.2, response, ?_⟩, messages,
        further ++ [.ready (MessageStream.ofEnding ending.outcome)], ?_, ?_⟩
      · show s.pull.2.Holds [] ((History.ending? floor.history).map Ending.outcome)
        rw [ended]
        exact holds.pull_ending.2
      · rw [answers, shows, List.append_assoc]
        rfl
      · rw [List.forall_mem_append, List.forall_mem_singleton]
        exact ⟨ends, rfl, ending, ended, rfl⟩

/-- Every step keeps the stream in line with what has reached the response. -/
theorem Step.follows {place : Place} (step : Step place floor floor')
    (follows : floor.Follows shown waiting) : ∃ shown waiting, floor'.Follows shown waiting := by
  cases step with
  | poll => exact follows.poll.2
  | violate e =>
    obtain ⟨⟨s, same, holds⟩, messages, answers⟩ := follows
    refine ⟨shown, waiting, ⟨s, ?_, holds⟩, messages, answers⟩
    show (floor.call.accumulator.violate e).response = .stream s
    unfold Accumulator.violate
    rw [same]
    exact same
  | offer m flags =>
    refine ⟨shown, follows.take (.part (.message m flags)) (fun s same => ?_) rfl rfl⟩
    show (floor.call.accumulator.offer m).2.response = _
    unfold Accumulator.offer
    rw [same]
    rfl
  | failResponse e =>
    refine ⟨shown, follows.take (.failure e) (fun s same => ?_) rfl rfl⟩
    show floor.call.accumulator.response.fail e = _
    rw [same]
    rfl
  | finishMessages status trailers =>
    refine ⟨shown, follows.take (.part (.finish status trailers)) (fun s same => ?_) rfl rfl⟩
    show (floor.call.accumulator.finishMessages _).2.response = _
    unfold Accumulator.finishMessages
    rw [same]
    rfl
  | _ => exact ⟨shown, waiting, follows.stream, follows.messages, follows.answers⟩

/-- The status is that of the ending that has reached it first. -/
def Ruled (floor : Floor σ P Resp) : Prop :=
  floor.call.status? = floor.verdicts.head?.map Ending.status

theorem Step.ruled {place : Place} (step : Step place floor floor') (ruled : floor.Ruled) :
    floor'.Ruled := by
  cases step with
  | poll =>
    show floor.call.pull.2.status? = _
    rw [Call.pull_snd]
    exact ruled
  | violate e =>
    show (floor.call.accumulator.violate e).outcome.status.value? = _
    unfold Accumulator.violate
    split <;> exact ruled
  | offer m flags =>
    show (floor.call.accumulator.offer m).2.outcome.status.value? = _
    unfold Accumulator.offer
    split
    · split <;> exact ruled
    · exact ruled
  | finishMessages status trailers =>
    show (floor.call.accumulator.finishMessages _).2.outcome.status.value? = _
    unfold Accumulator.finishMessages
    split <;> exact ruled
  | _ => exact ruled

theorem Ruled.conclude (ruled : floor.Ruled) (ending : Ending) : (floor.conclude ending).Ruled := by
  have settled := WriteOnce.value?_settle floor.call.accumulator.outcome.status ending.status
  have before : floor.call.accumulator.outcome.status.value? = _ := ruled
  rw [before] at settled
  show (floor.call.accumulator.outcome.status.settle ending.status).value? =
    (floor.verdicts ++ [ending]).head?.map Ending.status
  rw [settled]
  cases floor.verdicts <;> rfl

/-- The ending has reached the response. -/
def Ended (floor : Floor σ P Resp) (ending : Ending) : Prop :=
  ∃ arrival ∈ floor.history, arrival.ending? = some ending

/-- Every ending that has reached the status had reached the response before. -/
def Founded (floor : Floor σ P Resp) : Prop := ∀ ending ∈ floor.verdicts, floor.Ended ending

/-- Some ending has reached the response. -/
def HasEnding (floor : Floor σ P Resp) : Prop := ∃ ending, floor.Ended ending

/-- Some ending has reached the status. -/
def HasVerdict (floor : Floor σ P Resp) : Prop := floor.verdicts ≠ []

theorem verdict_conclude (ending : Ending) (floor : Floor σ P Resp) :
    (floor.conclude ending).HasVerdict :=
  List.append_ne_nil_of_right_ne_nil _ (List.cons_ne_nil ending [])

/-- What others may do to what has been recorded. -/
structure Grows (floor floor' : Floor σ P Resp) : Prop where
  history : floor.history <+: floor'.history
  answers : floor.answers <+: floor'.answers

namespace Grows

theorem refl (floor : Floor σ P Resp) : floor.Grows floor := ⟨List.prefix_rfl, List.prefix_rfl⟩

theorem trans {first second third : Floor σ P Resp} (before : first.Grows second)
    (after : second.Grows third) : first.Grows third :=
  ⟨before.history.trans after.history, before.answers.trans after.answers⟩

theorem ended (grows : floor.Grows floor') {ending : Ending} (ended : floor.Ended ending) :
    floor'.Ended ending :=
  ended.imp fun _ => And.imp_left fun mem => grows.history.subset mem

end Grows

theorem Step.grows {place : Place} (step : Step place floor floor') : floor.Grows floor' := by
  cases step with
  | poll => exact ⟨List.prefix_rfl, List.prefix_append _ _⟩
  | offer m flags => exact ⟨List.prefix_append _ _, List.prefix_rfl⟩
  | failResponse e => exact ⟨List.prefix_append _ _, List.prefix_rfl⟩
  | finishMessages status trailers => exact ⟨List.prefix_append _ _, List.prefix_rfl⟩
  | _ => exact ⟨List.prefix_rfl, List.prefix_rfl⟩

theorem Step.ended (step : Step .anywhere floor floor') {ending : Ending}
    (ended : floor'.Ended ending) : floor.Ended ending := by
  cases step with
  | offer m flags =>
    obtain ⟨arrival, mem, ends⟩ := ended
    rcases List.mem_append.mp mem with old | new
    · exact ⟨arrival, old, ends⟩
    · rw [List.mem_singleton.mp new] at ends
      cases ends
  | _ => exact ended

theorem Step.verdicts {place : Place} (step : Step place floor floor') :
    floor'.verdicts = floor.verdicts := by
  cases step <;> rfl

/-- What a step does to the records: they grow, and every ending at the status stays founded. -/
structure Records (floor floor' : Floor σ P Resp) : Prop extends floor.Grows floor' where
  founded : floor.Founded → floor'.Founded

theorem Step.records {place : Place} (step : Step place floor floor') : floor.Records floor' where
  toGrows := step.grows
  founded founded ending mem := by
    rw [step.verdicts] at mem
    exact step.grows.ended (founded ending mem)

end Floor

namespace Steps

open Routine

/-- A step that changes the accumulator, with what comes behind it. -/
theorem heeds_onAccumulator {α : Type} {f : Accumulator Resp → Accumulator Resp}
    {next : On σ P Resp α} {floor : Floor σ P Resp}
    (step : ∀ floor : Floor σ P Resp, Floor.Step .anywhere floor (floor.mapAccumulator f))
    (heeds : ∀ floor' : Floor σ P Resp, floor.Grows floor' →
      next.Heeds Floor.Grows Floor.Records floor') :
    (do onAccumulator f; next : On σ P Resp α).Heeds Floor.Grows Floor.Records floor :=
  fun floor' grown _ => ⟨(step floor').records, heeds _ (grown.trans (step floor').grows)⟩

/-- An ending that has reached the response may be written to the status. -/
theorem heeds_conclude {ending : Ending} {floor : Floor σ P Resp} (ended : floor.Ended ending) :
    (conclude ending : On σ P Resp Unit).Heeds Floor.Grows Floor.Records floor := by
  refine fun floor' grown _ => ⟨⟨⟨List.prefix_rfl, List.prefix_rfl⟩, ?_⟩, trivial⟩
  intro founded later mem
  rcases List.mem_append.mp mem with old | new
  · exact founded later old
  · rw [List.mem_singleton.mp new]
    exact grown.ended ended

theorem ended_log {arrival : Arrival (ResponsePart Resp)} {ending : Ending}
    (brings : arrival.ending? = some ending) (floor : Floor σ P Resp) :
    (floor.log arrival).Ended ending :=
  ⟨arrival, List.mem_append_right _ List.mem_cons_self, brings⟩

theorem heeds_handleError (e : CallError) (floor : Floor σ P Resp) :
    (handleError e).Heeds Floor.Grows Floor.Records floor :=
  fun floor _ _ => ⟨(Floor.Step.failResponse e floor).records,
    heeds_onAccumulator (.settleInitial _) fun _ first =>
      heeds_onAccumulator (.settleTrailing _) fun _ second =>
        heeds_conclude (second.ended (first.ended (ended_log rfl _)))⟩

theorem heeds_finish (status : Status) (trailers : Metadata) (floor : Floor σ P Resp) :
    (finish status trailers).Heeds Floor.Grows Floor.Records floor := by
  refine heeds_onAccumulator (.settleTrailing _) fun _ _ =>
    heeds_onAccumulator (.settleInitial _) fun _ _ => fun floor _ _ =>
      ⟨(Floor.Step.finishMessages status trailers floor).records, ?_⟩
  show (if (floor.call.accumulator.finishMessages (.finish status trailers)).1 then
    lacking status trailers else conclude (.finish status trailers) :
      On σ P Resp Unit).Heeds Floor.Grows Floor.Records _
  split
  · unfold lacking
    split
    · exact fun floor _ _ => ⟨(Floor.Step.failResponse _ floor).records,
        heeds_conclude (ended_log rfl _)⟩
    · exact fun floor grown _ => ⟨(Floor.Step.failResponse _ floor).records,
        heeds_conclude ((Floor.Step.failResponse _ floor).grows.ended
          (grown.ended (ended_log rfl _)))⟩
  · exact heeds_conclude (ended_log rfl _)

/-! Whoever brings an ending to the response writes one to the status later. -/

theorem prompts_anywhere : Covers (Floor.Step .anywhere : Floor σ P Resp → Floor σ P Resp → Prop)
    fun _ r => r.Prompts Floor.HasEnding Floor.HasVerdict :=
  covers_prompts fun _ _ step given => Or.inl (given.imp fun _ => step.ended)

theorem prompts_conclude (ending : Ending) :
    (conclude ending : On σ P Resp Unit).Prompts Floor.HasEnding Floor.HasVerdict :=
  fun _ _ => ⟨Or.inl, trivial⟩

theorem owes_conclude (ending : Ending) :
    (conclude ending : On σ P Resp Unit).Owes Floor.HasVerdict :=
  owes_act fun floor => floor.verdict_conclude ending

theorem prompts_handleError (e : CallError) :
    (handleError e : On σ P Resp Unit).Prompts Floor.HasEnding Floor.HasVerdict := by
  have settles : ∀ f g : Accumulator Resp → Accumulator Resp,
      (do onAccumulator f; onAccumulator g; conclude (.failure e) : On σ P Resp Unit).Owes
        Floor.HasVerdict := fun f g =>
    Attains.behind _ fun _ => Attains.behind _ fun _ => owes_conclude _
  exact Prompts.of_owes (failResponse e) (fun _ => settles _ _) fun _ =>
    prompts_anywhere.bind (prompts_anywhere.act (.settleInitial _)) fun _ =>
      prompts_anywhere.bind (prompts_anywhere.act (.settleTrailing _)) fun _ => prompts_conclude _

theorem prompts_finish (status : Status) (trailers : Metadata) :
    (finish status trailers : On σ P Resp Unit).Prompts Floor.HasEnding Floor.HasVerdict := by
  have lacks : (lacking status trailers : On σ P Resp Unit).Owes Floor.HasVerdict ∧
      (lacking status trailers : On σ P Resp Unit).Prompts Floor.HasEnding Floor.HasVerdict := by
    unfold lacking
    split <;> exact ⟨Attains.behind _ fun _ => owes_conclude _,
      Prompts.of_owes (failResponse _) (fun _ => owes_conclude _) fun _ => prompts_conclude _⟩
  refine prompts_anywhere.bind (prompts_anywhere.act (.settleTrailing _)) fun _ =>
    prompts_anywhere.bind (prompts_anywhere.act (.settleInitial _)) fun _ =>
      Prompts.of_owes (finishMessages status trailers) (fun missing => ?_) fun missing => ?_
  · split
    · exact lacks.1
    · exact owes_conclude _
  · split
    · exact lacks.2
    · exact prompts_conclude _

end Steps

/-- What overlapping operations make of a stream of responses and of the status. -/
structure Overlap.Streams (setup : Setup σ P Req Resp) (shared : σ)
    (turns : List (Crowd.Turn (Operation P Req))) : Prop where
  /-- Polls show the messages that have reached the response, in order, and then its first ending;
  the next one shows what comes next. -/
  delivers : ∃ shown waiting, (run setup shared turns).state.Follows shown waiting ∧
    (run setup shared turns).state.call.pull.1 =
      Accumulator.expected waiting (History.ending? (run setup shared turns).state.history)
  /-- That ending and the messages before it stay. -/
  lasting : ∀ ending, History.ending? (run setup shared turns).state.history = some ending →
    ∀ later, History.ending? (run setup shared (turns ++ later)).state.history = some ending ∧
      History.messages (run setup shared (turns ++ later)).state.history =
        History.messages (run setup shared turns).state.history
  /-- What polls have answered, they have answered. -/
  answered : ∀ later, (run setup shared turns).state.answers <+:
    (run setup shared (turns ++ later)).state.answers
  /-- The status is that of the ending that has reached it first. -/
  ruled : (run setup shared turns).state.Ruled
  /-- That ending had reached the response. -/
  founded : (run setup shared turns).state.Founded
  /-- Once all operations have returned, a response with an ending has a status. -/
  resolved : (run setup shared turns).Settled → (run setup shared turns).state.HasEnding →
    (run setup shared turns).state.call.status?.isSome = true

namespace Overlap

variable {setup : Setup σ P Req Resp}

/-- However operations overlap, the stream follows the response. -/
theorem follows_run (streams : setup.shape.streamsResponses = true) (shared : σ)
    (turns : List (Crowd.Turn (Operation P Req))) :
    ∃ shown waiting, (run setup shared turns).state.Follows shown waiting := by
  refine holds_run (I := fun floor => ∃ shown waiting, floor.Follows shown waiting)
    ⟨[], [], ⟨.fresh, ?_, MessageStream.holds_fresh⟩, rfl, [], rfl, nofun⟩
    (fun _ _ _ step ⟨_, _, follows⟩ => step.follows follows)
    (fun _ _ ⟨shown, waiting, follows⟩ =>
      ⟨shown, waiting, follows.stream, follows.messages, follows.answers⟩) turns
  show (if setup.shape.streamsResponses then Response.freshStream else .freshSingle) = _
  rw [streams]
  rfl

theorem ruled_run (shared : σ) (turns : List (Crowd.Turn (Operation P Req))) :
    (run setup shared turns).state.Ruled :=
  holds_run (I := Floor.Ruled) rfl (fun _ _ _ => Floor.Step.ruled)
    (fun ending _ ruled => ruled.conclude ending) turns

theorem grows_run (shared : σ) (turns later : List (Crowd.Turn (Operation P Req))) :
    (run setup shared turns).state.Grows (run setup shared (turns ++ later)).state :=
  keeps_run .refl (fun _ _ _ => .trans) (fun _ _ _ => Floor.Step.grows)
    (fun _ _ => ⟨List.prefix_rfl, List.prefix_rfl⟩) turns later

theorem founded_run (shared : σ) (turns : List (Crowd.Turn (Operation P Req))) :
    (run setup shared turns).state.Founded := by
  have covers : ∀ place, Routine.Covers (Floor.Step place : Floor σ P Resp → Floor σ P Resp → Prop)
      fun _ r => ∀ floor, r.Heeds Floor.Grows Floor.Records floor := fun _ =>
    Routine.covers_heeds fun _ _ step => step.records
  have begins : ∀ (_ : List (Operation P Req)) operation floor, floor.Founded →
      (Operation.steps setup operation).Heeds Floor.Grows Floor.Records floor :=
    fun _ operation floor _ => operation.covers_steps setup (covers .anywhere)
      Steps.heeds_handleError Steps.heeds_finish floor
  exact (Crowd.Heeding.after (c := fresh setup shared) (R := fun _ => Floor.Records)
    (I := fun _ => Floor.Founded) begins .refl (fun _ _ _ => .trans)
    (fun _ _ _ records => records.toGrows) (fun _ _ _ => id)
    (fun _ _ _ _ _ records => records.founded) nofun nofun turns).2

theorem resolved_run (shared : σ) (turns : List (Crowd.Turn (Operation P Req)))
    (settled : (run setup shared turns).Settled)
    (ended : (run setup shared turns).state.HasEnding) :
    (run setup shared turns).state.HasVerdict := by
  have spares : ∀ operation : Operation P Req, (operation.steps setup).Keeps (fun _ => True)
      (fun floor floor' => floor.HasVerdict → floor'.HasVerdict) fun _ => True :=
    Operation.keeps_steps
      (fun _ _ _ step verdict => by rwa [Floor.HasVerdict, step.verdicts])
      (fun ending floor _ => floor.verdict_conclude ending) setup
  have prompts : ∀ operation : Operation P Req, (operation.steps setup).Prompts
      Floor.HasEnding Floor.HasVerdict := fun operation =>
    operation.covers_steps setup Steps.prompts_anywhere Steps.prompts_handleError
      Steps.prompts_finish
  have nobody : (fresh setup shared : Overlap σ P Req Resp).Pending Floor.HasEnding
      Floor.HasVerdict :=
    ⟨⟨⟨trivial, fun _ _ _ found => by cases found⟩, nofun⟩, fun ⟨_, _, mem, _⟩ => by cases mem⟩
  exact (Crowd.Pending.after spares prompts nobody turns).settled settled ended

theorem streams_run (streams : setup.shape.streamsResponses = true) (shared : σ)
    (turns : List (Crowd.Turn (Operation P Req))) : Streams setup shared turns where
  delivers := by
    obtain ⟨shown, waiting, follows⟩ := follows_run streams shared turns
    exact ⟨shown, waiting, follows, follows.poll.1⟩
  lasting ending ended later := by
    obtain ⟨more, grown⟩ := (grows_run shared turns later).history
    obtain ⟨same, body⟩ := History.append_of_ended ended more
    rw [← grown]
    exact ⟨same, congrArg (List.filterMap Arrival.message?) body⟩
  answered later := (grows_run shared turns later).answers
  ruled := ruled_run shared turns
  founded := founded_run shared turns
  resolved settled ended := by
    have verdict := resolved_run shared turns settled ended
    rw [show _ = _ from ruled_run shared turns, Option.isSome_map]
    exact List.isSome_head?.mpr verdict

end Overlap

/-- A call with a stream of responses delivers what its history says, and the status says the same,
if events and polls come one after the other. However they overlap, the stream follows the ending
that reaches the response first, and the status the one that reaches the status first. -/
theorem streams_first_ending (setup : Setup σ P Req Resp) (shared : σ)
    (streams : setup.shape.streamsResponses = true) :
    (∀ invocation request (moves : List (Move P Req)),
      ((Call.begin setup shared invocation request).run setup moves).Delivers setup
        (Call.history setup shared invocation request moves)
        (((Call.begin setup shared invocation request).glimpses setup moves).filterMap
          Glimpse.message?)) ∧
    ∀ turns : List (Crowd.Turn (Operation P Req)), Overlap.Streams setup shared turns :=
  ⟨fun invocation request moves =>
      Call.stream_follows_history setup shared invocation request moves streams,
    Overlap.streams_run streams shared⟩

namespace Racing

/-- The call is started, and a message comes. -/
def opening : List (Crowd.Turn (Operation String String)) :=
  .begin (.start (.ok ()) (some "hello")) :: List.replicate 14 (.go 0) ++
    [.begin (.event (.part (.message "one" {})))]

/-- The message is delivered, and an end after it, but for the status; meanwhile the call is
cancelled. Then the consumer polls twice. -/
def turns : List (Crowd.Turn (Operation String String)) :=
  opening ++ List.replicate 3 (.go 1) ++
    .begin (.event (.part (.finish .success .empty))) :: List.replicate 4 (.go 2) ++
    .begin (.event .cancel) :: List.replicate 10 (.go 3) ++ List.replicate 3 (.go 2) ++
    [.begin .pull, .go 4, .begin .pull, .go 5]

def after (turns : List (Crowd.Turn (Operation String String))) :
    Overlap Unit String String String :=
  .run listing () turns

/-- One after the other: a message that came before the cancellation is shown before it, and then
the cancellation for ever; what comes later is lost. At once: the message and the end are shown, and
that is how it stays. -/
theorem message_outlives_cancellation :
    let started := Call.begin listing () (.ok ()) (some "hello")
    let moves : List (Move String String) :=
      [.event (.part (.message "one" {})), .event (.part (.message "two" {})), .pull,
        .event .cancel, .event (.part (.message "late" {})),
        .event (.part (.finish .success .empty))]
    let call := started.run listing moves
    listing.shape.streamsResponses = true ∧
      call.status? = some CallError.cancelled.toStatus ∧
      call.glimpses listing (List.replicate 3 (.pull : Move String String)) =
        [.pulled (.ready (.ok (some "two"))), .pulled (.ready (.error .cancelled)),
          .pulled (.ready (.error .cancelled))] ∧
      ∀ later, History.messages (Overlap.run listing () (turns ++ later)).state.history =
        ["one"] := by
  intro started moves call
  obtain ⟨inTurn, atOnce⟩ := streams_first_ending listing () rfl
  obtain ⟨status, waiting, messages, -, pulls⟩ := inTurn (.ok ()) (some "hello") moves
  have left : ["one"] ++ ["two"] = ["one"] ++ waiting := messages
  obtain rfl := List.append_cancel_left left
  refine ⟨rfl, status, (pulls (.failure .cancelled) rfl).1 2, fun later => ?_⟩
  exact ((atOnce turns).lasting (.finish .success .empty) rfl later).2

/-- The stream ends well, and the status says that the call was cancelled. -/
theorem status_of_another_ending :
    (after turns).state.answers = [.ready (.ok (some "one")), .ready (.ok none)] ∧
      History.ending? (after turns).state.history = some (.finish .success .empty) ∧
      (after turns).state.call.status? = some CallError.cancelled.toStatus ∧
      CallError.cancelled.toStatus ≠ (Ending.finish .success .empty).status :=
  ⟨rfl, rfl, rfl, by decide⟩

/-- A message that the order filter has let through is lost if the call is cancelled before it
reaches the stream. -/
theorem admitted_message_lost :
    let late := after (opening ++ .go 1 :: .begin (.event .cancel) :: List.replicate 10 (.go 2) ++
      [.go 1, .go 1, .begin .pull, .go 3])
    late.state.answers = [.ready (.error .cancelled)] ∧
      History.messages late.state.history = [] ∧
      late.state.history.filterMap Arrival.message? = ["one"] :=
  ⟨rfl, rfl, rfl⟩

end Racing

end RemoteCall.Client
