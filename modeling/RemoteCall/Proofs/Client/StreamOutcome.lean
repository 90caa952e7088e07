import RemoteCall.Proofs.Client.FirstOutcome
import RemoteCall.Proofs.Client.History
import RemoteCall.Proofs.MessageStream

/-!
# What the consumer of a response stream gets

However events and polls mix, the messages of the history come out of a response stream in order
and each once, and behind the last of them the ending, for ever. The status is that of the same
ending. `Accumulator.Streams` ties the stream to the history and to what polls have shown; every
event and every poll keeps it.
-/

namespace RemoteCall

namespace MessageStream

open Client (Ending History)

variable {Resp : Type} {s : MessageStream Resp}

/-- What something that reaches the response does to the stream. -/
def take (s : MessageStream Resp) : Arrival (ResponsePart Resp) → MessageStream Resp
  | .part (.headers _) => s
  | .part (.message m _) => (s.push m).2
  | .part (.finish status trailers) => (s.finishWith (Ending.finish status trailers).outcome).2
  | .failure e => (s.finishWith (Ending.failure e).outcome).2

/-- A stream with an end takes nothing more. -/
theorem take_of_isFinished (finished : s.isFinished = true)
    (arrival : Arrival (ResponsePart Resp)) : s.take arrival = s := by
  cases arrival with
  | failure e => exact congrArg Prod.snd (finishWith_of_isFinished finished _)
  | part part =>
    cases part with
    | headers m => rfl
    | message m flags => exact congrArg Prod.snd (push_of_isFinished finished m)
    | finish status trailers => exact congrArg Prod.snd (finishWith_of_isFinished finished _)

/-- A stream that holds what is left of its history does so after the next arrival: that is a
message that is left as well, or the end, or behind the end nothing. -/
theorem Holds.take {history : History Resp} {shown waiting : List Resp}
    (holds : s.Holds waiting (history.ending?.map Ending.outcome))
    (messages : history.messages = shown ++ waiting) (arrival : Arrival (ResponsePart Resp)) :
    ∃ left, (s.take arrival).Holds left
        ((History.ending? (history ++ [arrival])).map Ending.outcome) ∧
      History.messages (history ++ [arrival]) = shown ++ left ∧
      (history.ending?.isSome = true → left = waiting) := by
  cases ended : history.ending? with
  | none =>
    obtain ⟨ending, grown, -⟩ := History.append_of_open ended arrival
    rw [ended] at holds
    rw [ending, grown, messages, List.append_assoc]
    refine ⟨waiting ++ arrival.message?.toList, ?_, rfl, nofun⟩
    have only : waiting ++ [] = waiting := List.append_nil waiting
    cases arrival with
    | failure e => exact only.symm ▸ holds.finishWith _
    | part part =>
      cases part with
      | headers m => exact only.symm ▸ holds
      | message m flags => exact holds.push m
      | finish status trailers => exact only.symm ▸ holds.finishWith _
  | some ending =>
    obtain ⟨same, body⟩ := History.append_of_ended ended [arrival]
    rw [ended] at holds
    have finished : s.isFinished = true := by
      rw [isFinished, holds.ending]
      rfl
    rw [take_of_isFinished finished, same, History.messages, body]
    exact ⟨waiting, holds, messages, fun _ => rfl⟩

end MessageStream

namespace Client

variable {σ P Req Resp : Type}

/-- The message that a poll has shown. -/
def Glimpse.message? : Glimpse Resp → Option Resp
  | .pulled answer => MessageStream.pulledItem? answer
  | .shown answer => MessageStream.shownItem? answer

namespace Accumulator

/-- After this history, polls have shown these messages: the others wait in the stream, the end
stands behind them, and the status says the same. -/
inductive Streams : History Resp → List Resp → Accumulator Resp → Prop where
  | intro {history : History Resp} {shown waiting : List Resp} {outcome : Outcome}
      {s : MessageStream Resp} (messages : history.messages = shown ++ waiting)
      (holds : s.Holds waiting (history.ending?.map Ending.outcome))
      (status : outcome.status.value? = history.ending?.map Ending.status) :
      Streams history shown ⟨outcome, .stream s⟩

variable {a : Accumulator Resp} {history : History Resp} {shown : List Resp}

theorem Streams.isStream (streams : a.Streams history shown) :
    ∃ outcome s, a = ⟨outcome, .stream s⟩ := by
  obtain ⟨messages, holds, status⟩ := streams
  exact ⟨_, _, rfl⟩

theorem streams_fresh : Streams [] [] ({ response := .freshStream } : Accumulator Resp) :=
  .intro rfl MessageStream.holds_fresh rfl

/-- An arrival is the next message, or the end, or neither. Behind the end nothing reaches the
stream or the status any more. -/
theorem Streams.take (streams : a.Streams history shown) (arrival : Arrival (ResponsePart Resp)) :
    (a.take arrival).Streams (history ++ [arrival]) shown := by
  obtain ⟨messages, holds, status⟩ := streams
  rename_i waiting outcome s
  obtain ⟨left, later, told, -⟩ := holds.take messages arrival
  have taken : ∃ outcome', Accumulator.take ⟨outcome, .stream s⟩ arrival =
      ⟨outcome', .stream (s.take arrival)⟩ ∧ outcome'.status =
        (arrival.ending?.map Ending.status).elim outcome.status outcome.status.settle := by
    cases arrival with
    | failure e => exact ⟨_, rfl, rfl⟩
    | part part => cases part <;> exact ⟨_, rfl, rfl⟩
  obtain ⟨outcome', same, concluded⟩ := taken
  rw [same]
  refine .intro told later ?_
  have alone : History.ending? [arrival] = arrival.ending? := by
    cases h : arrival.ending? <;> simp [History.ending?, h]
  rw [concluded, History.ending?_append, Option.map_or, ← status, alone]
  cases arrival.ending? with
  | none => exact (Option.or_none ..).symm
  | some ending => exact (WriteOnce.value?_settle ..).trans (Option.or_some ..).symm

theorem Streams.takeAll (streams : a.Streams history shown) (later : History Resp) :
    (a.takeAll later).Streams (history ++ later) shown := by
  induction later generalizing a history with
  | nil =>
    rw [List.append_nil]
    exact streams
  | cons arrival rest ih =>
    rw [List.append_cons]
    exact ih (streams.take arrival)

/-- A poll of the stream shows the next message, or none. -/
theorem Streams.poll {outcome : Outcome} {s later : MessageStream Resp}
    (streams : Streams history shown ⟨outcome, .stream s⟩) (glimpse : Glimpse Resp)
    (polled : ∀ {items final}, s.Holds items final →
      ∃ rest, items = glimpse.message?.toList ++ rest ∧ later.Holds rest final) :
    Streams history (shown ++ glimpse.message?.toList) ⟨outcome, .stream later⟩ := by
  obtain ⟨messages, holds, status⟩ := streams
  obtain ⟨rest, rfl, left⟩ := polled holds
  refine .intro ?_ left status
  rw [messages, List.append_assoc]

/-- What a poll shows when these messages wait and this end stands behind them. -/
def expected (waiting : List Resp) (ending : Option Ending) : Poll (Result (Option Resp)) :=
  match waiting, ending with
  | m :: _, _ => .ready (.ok (some m))
  | [], some ending => .ready (MessageStream.ofEnding ending.outcome)
  | [], none => .pending

theorem pull_of_holds {s : MessageStream Resp} {waiting : List Resp} {ending : Option Ending}
    (holds : s.Holds waiting (ending.map Ending.outcome)) :
    s.pull.1 = expected waiting ending := by
  cases waiting with
  | cons m rest => exact holds.pull_item.1
  | nil =>
    cases ending with
    | none => exact holds.pull_nothing.1
    | some ending => exact holds.pull_ending.1

end Accumulator

/-- A call that sends one text for a stream of texts. -/
def listing : Setup Unit String String String := { greeting with shape := .serverStreaming }

namespace Call

variable {history : History Resp} {shown : List Resp}

theorem pull_of_stream {call : Call σ Resp} {outcome : Outcome} {s : MessageStream Resp}
    (h : call.accumulator = ⟨outcome, .stream s⟩) :
    call.pull.1 = s.pull.1 ∧ call.pull.2.accumulator = ⟨outcome, .stream s.pull.2⟩ := by
  unfold pull mapStream
  rw [h]
  exact ⟨rfl, rfl⟩

theorem next_of_stream {call : Call σ Resp} {outcome : Outcome} {s : MessageStream Resp}
    (h : call.accumulator = ⟨outcome, .stream s⟩) :
    call.next.1 = s.next.1 ∧ call.next.2.accumulator = ⟨outcome, .stream s.next.2⟩ := by
  unfold next mapStream
  rw [h]
  exact ⟨rfl, rfl⟩

/-- An event is the next piece of the history, and a poll shows the next message or none. -/
theorem streams_move (setup : Setup σ P Req Resp) {call : Call σ Resp}
    (streams : call.accumulator.Streams history shown) (move : Move P Req) :
    (call.move setup move).accumulator.Streams
      (history ++ call.order.sift (call.moveArrivals setup move))
      (shown ++ (call.glimpse? move).toList.filterMap Glimpse.message?) := by
  have isStream : ∃ outcome s, call.accumulator = ⟨outcome, .stream s⟩ := streams.isStream
  cases move with
  | event event =>
    have taken := congrArg Intake.accumulator (intake_event setup event call)
    have same : (call.move setup (.event event)).accumulator = _ := taken
    show Accumulator.Streams _ (shown ++ []) _
    rw [same, List.append_nil]
    exact streams.takeAll _
  | pull =>
    obtain ⟨outcome, s, h⟩ := isStream
    obtain ⟨answer, later⟩ := pull_of_stream h
    rw [h] at streams
    have polled := streams.poll (.pulled s.pull.1) fun holds => holds.pull
    show Accumulator.Streams (history ++ []) (shown ++ [Glimpse.pulled call.pull.1].filterMap _)
      call.pull.2.accumulator
    rw [later, answer, List.append_nil]
    exact polled
  | next =>
    obtain ⟨outcome, s, h⟩ := isStream
    obtain ⟨answer, later⟩ := next_of_stream h
    rw [h] at streams
    have polled := streams.poll (.shown s.next.1) fun holds => holds.next
    show Accumulator.Streams (history ++ []) (shown ++ [Glimpse.shown call.next.1].filterMap _)
      call.next.2.accumulator
    rw [later, answer, List.append_nil]
    exact polled

theorem streams_run (setup : Setup σ P Req Resp) (moves : List (Move P Req)) {call : Call σ Resp}
    (streams : call.accumulator.Streams history shown) :
    (call.run setup moves).accumulator.Streams (history ++ call.admitted setup moves)
      (shown ++ (call.glimpses setup moves).filterMap Glimpse.message?) := by
  induction moves generalizing call history shown with
  | nil =>
    show Accumulator.Streams (history ++ []) (shown ++ []) call.accumulator
    rw [List.append_nil, List.append_nil]
    exact streams
  | cons move rest ih =>
    have moved := ih (streams_move setup streams move)
    rw [run_cons, admitted_cons, glimpses, List.filterMap_append, ← List.append_assoc,
      ← List.append_assoc]
    exact moved

/-- What a started call reports follows its history, through every run. -/
theorem streams_begin_run (setup : Setup σ P Req Resp) (shared : σ) (invocation : Result Unit)
    (request : Option Req) (moves : List (Move P Req))
    (streams : setup.shape.streamsResponses = true) :
    ((begin setup shared invocation request).run setup moves).accumulator.Streams
      (Call.history setup shared invocation request moves)
      (((begin setup shared invocation request).glimpses setup moves).filterMap
        Glimpse.message?) := by
  have fresh : (fresh setup.shape shared : Call σ Resp).accumulator =
      { response := .freshStream } := by
    simp [Call.fresh, streams]
  have opened := Accumulator.streams_fresh.takeAll (ResponseOrder.fresh.sift
    ((Call.fresh setup.shape shared).startArrivals setup invocation request))
  rw [← fresh, ← accumulator_begin] at opened
  exact streams_run setup moves opened

/-- A stream that holds these messages and this end shows them to pulls that ask on. -/
theorem glimpses_pulls (setup : Setup σ P Req Resp) {call : Call σ Resp} {outcome : Outcome}
    {s : MessageStream Resp} {waiting : List Resp} {final : Result Unit}
    (h : call.accumulator = ⟨outcome, .stream s⟩) (holds : s.Holds waiting (some final))
    (further : Nat) :
    call.glimpses setup (List.replicate (waiting.length + further) (.pull : Move P Req)) =
      waiting.map (fun m => .pulled (.ready (.ok (some m)))) ++
        List.replicate further (.pulled (.ready (MessageStream.ofEnding final))) := by
  induction waiting generalizing call s with
  | nil =>
    rw [List.length_nil, Nat.zero_add]
    induction further generalizing call s with
    | zero => rfl
    | succ further ih =>
      obtain ⟨answer, later⟩ := pull_of_stream h
      obtain ⟨shown, left⟩ := holds.pull_ending
      have rest := ih later left
      rw [List.replicate_succ, List.replicate_succ, glimpses]
      show Glimpse.pulled call.pull.1 :: _ = _
      rw [answer, shown]
      exact congrArg _ rest
  | cons m waiting ih =>
    obtain ⟨answer, later⟩ := pull_of_stream h
    obtain ⟨shown, left⟩ := holds.pull_item
    have rest := ih later left
    rw [List.length_cons, Nat.succ_add, List.replicate_succ, glimpses]
    show Glimpse.pulled call.pull.1 :: _ = _
    rw [answer, shown]
    exact congrArg _ rest

/-- Once everything was shown, a pull shows the end, whatever happened since. -/
theorem pull_of_shown (setup : Setup σ P Req Resp) {call : Call σ Resp} {ending : Ending}
    (streams : call.accumulator.Streams history shown) (all : history.messages = shown)
    (ended : history.ending? = some ending) (later : List (Move P Req)) :
    (call.run setup later).pull.1 = .ready (MessageStream.ofEnding ending.outcome) := by
  obtain ⟨same, body⟩ := History.append_of_ended ended (call.admitted setup later)
  have grown := streams_run setup later streams
  generalize ran : (call.run setup later).accumulator = a at grown
  obtain ⟨messages, holds, -⟩ := grown
  obtain ⟨answer, -⟩ := pull_of_stream ran
  rw [History.messages, body] at messages
  have nothing : shown ++ _ = shown ++ _ :=
    (List.append_nil shown).trans (all.symm.trans (messages.trans (List.append_assoc ..)))
  have none := List.append_eq_nil_iff.mp (List.append_cancel_left nothing).symm
  rw [same, none.2] at holds
  rw [answer]
  exact holds.pull_ending.1

/-- What a call with a stream of responses tells after this history, when polls have shown these
messages. -/
structure Delivers (setup : Setup σ P Req Resp) (history : History Resp) (shown : List Resp)
    (call : Call σ Resp) : Prop where
  /-- The status is that of the end of the history. -/
  status : call.status? = history.ending?.map Ending.status
  /-- Each message of the history was shown once and in order, or waits to be shown; behind the last
  one comes the end, as often as it is asked for and whatever happens. -/
  messages : ∃ waiting, history.messages = shown ++ waiting ∧
    call.pull.1 = Accumulator.expected waiting history.ending? ∧
    ∀ ending, history.ending? = some ending →
      (∀ further, call.glimpses setup
          (List.replicate (waiting.length + further) (.pull : Move P Req)) =
        waiting.map (fun m => .pulled (.ready (.ok (some m)))) ++
          List.replicate further (.pulled (.ready (MessageStream.ofEnding ending.outcome)))) ∧
      (waiting = [] → ∀ later : List (Move P Req),
        (call.run setup later).pull.1 = .ready (MessageStream.ofEnding ending.outcome))

/-- A response stream follows the history of its call, however polls and events mix, and so does the
status. -/
theorem stream_follows_history (setup : Setup σ P Req Resp) (shared : σ)
    (invocation : Result Unit) (request : Option Req) (moves : List (Move P Req))
    (streams : setup.shape.streamsResponses = true) :
    ((begin setup shared invocation request).run setup moves).Delivers setup
      (Call.history setup shared invocation request moves)
      (((begin setup shared invocation request).glimpses setup moves).filterMap
        Glimpse.message?) := by
  have follows := streams_begin_run setup shared invocation request moves streams
  have kept := follows
  generalize same : ((begin setup shared invocation request).run setup moves).accumulator = a
    at kept
  obtain ⟨messages, holds, status⟩ := kept
  rename_i waiting outcome s
  obtain ⟨answer, -⟩ := pull_of_stream same
  refine ⟨?_, waiting, messages, ?_, fun ending ended => ⟨fun further => ?_, ?_⟩⟩
  · rw [status?, same]
    exact status
  · rw [answer]
    exact Accumulator.pull_of_holds holds
  · rw [ended] at holds
    exact glimpses_pulls setup same holds further
  · rintro rfl later
    exact pull_of_shown setup follows (messages.trans (List.append_nil _)) ended later

end Call

end Client

end RemoteCall
