import RemoteCall.Proofs.MessageStream
import RemoteCall.Proofs.Server.Orderly

/-!
# Methods that take a stream of requests

Such a method starts its handler with the first part, if this is the headers. From then on the
stream of requests gets every message that arrives, up to the end or the first failure, which
closes it. `Ledger.Feeds` ties the stream to what has arrived and to what polls have shown. Every
incident and every poll keeps it, so the handler gets what was sent however they mix
(`Call.serves_request_stream`).
-/

namespace RemoteCall.Server

variable {σ P Req Resp : Type} {method : Method σ P Req Resp}

/-! ### What a stream is fed -/

/-- The messages that arrive before the end and before anything fails. -/
def content : List (Arrival (RequestPart Req)) → List Req
  | .part (.message a _) :: rest => a :: content rest
  | .part (.headers _) :: rest => content rest
  | _ => []

/-- How the messages end, if they have ended. -/
def closing? : List (Arrival (RequestPart Req)) → Option (Result Unit)
  | .part .finish :: _ => some (.ok ())
  | .failure e :: _ => some (.error e)
  | .part _ :: rest => closing? rest
  | [] => none

theorem content_append_of_closed {all : List (Arrival (RequestPart Req))}
    (closed : (closing? all).isSome) (more : List (Arrival (RequestPart Req))) :
    content (all ++ more) = content all ∧ closing? (all ++ more) = closing? all := by
  induction all with
  | nil => cases closed
  | cons arrival rest ih =>
    cases arrival with
    | failure e => exact ⟨rfl, rfl⟩
    | part part =>
      cases part with
      | headers m => exact ih closed
      | message a flags =>
        obtain ⟨same, ends⟩ := ih closed
        exact ⟨congrArg (a :: ·) same, ends⟩
      | finish => exact ⟨rfl, rfl⟩

theorem content_append_of_open {all : List (Arrival (RequestPart Req))}
    (open_ : closing? all = none) (more : List (Arrival (RequestPart Req))) :
    content (all ++ more) = content all ++ content more ∧
      closing? (all ++ more) = closing? more := by
  induction all with
  | nil => exact ⟨rfl, rfl⟩
  | cons arrival rest ih =>
    cases arrival with
    | failure e => cases open_
    | part part =>
      cases part with
      | headers m => exact ih open_
      | message a flags =>
        obtain ⟨same, ends⟩ := ih open_
        exact ⟨congrArg (a :: ·) same, ends⟩
      | finish => cases open_

/-- The end that a consumer sees if nobody feeds the stream any more: one that was fixed counts. -/
def finale (closing : Option (Result Unit)) (left : Bool) : Option (Result Unit) :=
  if left then some (closing.getD (.error .cancelled)) else closing

/-- A stream of requests with these messages waiting, and with this end behind them. -/
structure Keeps (requests : MessageStream Req) (waiting : List Req)
    (closing : Option (Result Unit)) (left : Bool) : Prop where
  fed : left = false → requests.Holds waiting closing
  yields : requests.Yields waiting (finale closing left)

theorem Keeps.of_holds {requests : MessageStream Req} {waiting : List Req}
    {closing : Option (Result Unit)} (holds : requests.Holds waiting closing) :
    Keeps requests waiting closing false :=
  ⟨fun _ => holds, holds.yields⟩

theorem Keeps.pull {requests : MessageStream Req} {waiting : List Req}
    {closing : Option (Result Unit)} {left : Bool} (keeps : Keeps requests waiting closing left) :
    requests.pull.1 = MessageStream.offer waiting (finale closing left) ∧
      Keeps requests.pull.2 waiting.tail closing left := by
  obtain ⟨answer, later⟩ := keeps.yields.pull
  refine ⟨answer, fun fed => ?_, later⟩
  have holds := keeps.fed fed
  cases waiting with
  | cons item rest => exact holds.pull_item.2
  | nil =>
    cases closing with
    | none => exact holds.pull_nothing.2
    | some outcome => exact holds.pull_ending.2

theorem Keeps.abandon {requests : MessageStream Req} {waiting : List Req}
    {closing : Option (Result Unit)} (keeps : Keeps requests waiting closing false) :
    Keeps requests.abandon waiting closing true :=
  ⟨nofun, (keeps.fed rfl).abandon⟩

namespace Ledger

/-- The messages that polls have shown. -/
def shown (l : Ledger Req) : List Req := l.answers.filterMap MessageStream.pulledItem?

/-- Where the stream of requests stands when this has arrived. -/
inductive Feeds (all : List (Arrival (RequestPart Req))) (left : Bool) (l : Ledger Req) : Prop
    where
  /-- Nothing has arrived. -/
  | idle (nothing : all = []) (idle : l.inbound = .idle) (never : l.starts = [])
      (unshown : l.shown = []) (keeps : Keeps l.requests [] none left)
  /-- Something else than headers came first, and there is no handler to get the stream. -/
  | lost (closed : l.inbound = .closed) (never : l.starts = [])
  | feeds {waiting : List Req} (past : l.inbound.isPast = true)
      (streaming : l.inbound = .streaming ↔ closing? all = none)
      (messages : content all = l.shown ++ waiting)
      (keeps : Keeps l.requests waiting (closing? all) left)

variable {l : Ledger Req} {all : List (Arrival (RequestPart Req))} {streams : Bool}

theorem Feeds.of_holds {waiting : List Req} {closing : Option (Result Unit)}
    (past : l.inbound.isPast = true) (streaming : l.inbound = .streaming ↔ closing = none)
    (messages : content all = l.shown ++ waiting) (ends : closing? all = closing)
    (holds : l.requests.Holds waiting closing) : l.Feeds all false := by
  subst ends
  exact .feeds past streaming messages (.of_holds holds)

theorem feeds_fresh : ({} : Ledger Req).Feeds [] false :=
  .idle rfl rfl rfl rfl (.of_holds MessageStream.holds_fresh)

/-! ### Single steps -/

theorem step_failure_of_not_streaming (still : l.inbound ≠ .streaming) (e : CallError) :
    l.step streams (.arrival (.failure e) : Incident Req Resp) = { l with inbound := .closed } := by
  obtain ⟨inbound, headers, requests, ended, starts, answers⟩ := l
  cases inbound with
  | streaming => exact absurd rfl still
  | idle => rfl
  | awaiting => rfl
  | holding message => rfl
  | running => rfl
  | closed => rfl

/-- What an open stream of requests does with an arrival. -/
theorem step_of_streaming (Resp : Type) (streams : Bool) (streaming : l.inbound = .streaming) :
    (∀ m, l.step streams (.arrival (.part (.headers m)) : Incident Req Resp) = l) ∧
    (∀ a flags, l.step streams (.arrival (.part (.message a flags)) : Incident Req Resp) =
      { l with requests := (l.requests.push a).2 }) ∧
    l.step streams (.arrival (.part .finish) : Incident Req Resp) =
      { l with inbound := .running, requests := (l.requests.finishWith (.ok ())).2 } ∧
    (∀ e, l.step streams (.arrival (.failure e) : Incident Req Resp) =
      { l with inbound := .closed, requests := (l.requests.finishWith (.error e)).2 }) := by
  obtain ⟨inbound, headers, requests, ended, starts, answers⟩ := l
  obtain rfl : inbound = .streaming := streaming
  simp [step, settle, call, Pass.advance, Pass.Reaction.request?, Call.closeInbound]

/-- What closes the stream leaves it closed, and so does what comes later. -/
theorem over_of_closing (past : l.inbound.isPast = true) (still : l.inbound ≠ .streaming) :
    l.inbound = .running ∨ l.inbound = .closed := by
  cases h : l.inbound with
  | streaming => exact absurd h still
  | running => exact Or.inl rfl
  | closed => exact Or.inr rfl
  | idle => rw [h] at past; cases past
  | awaiting => rw [h] at past; cases past
  | holding message => rw [h] at past; cases past

/-- While the stream is open, an arrival is its next message, closes it, or does not matter. -/
theorem Feeds.arrival_of_open {waiting : List Req} (streaming : l.inbound = .streaming)
    (open_ : closing? all = none) (messages : content all = l.shown ++ waiting)
    (holds : l.requests.Holds waiting none) (arrival : Arrival (RequestPart Req)) :
    (l.step streams (.arrival arrival : Incident Req Resp)).Feeds (all ++ [arrival]) false := by
  obtain ⟨grown, ends⟩ := content_append_of_open open_ [arrival]
  obtain ⟨onHeaders, onMessage, onFinish, onFailure⟩ :=
    step_of_streaming Resp streams streaming
  have past : l.inbound.isPast = true := by rw [streaming]; rfl
  have same : content all ++ [] = l.shown ++ waiting := (List.append_nil _).trans messages
  cases arrival with
  | failure e =>
    rw [onFailure]
    exact .of_holds rfl (iff_of_false nofun (Option.some_ne_none _)) (grown.trans same) ends
      (holds.finishWith (.error e))
  | part part =>
    cases part with
    | headers m =>
      rw [onHeaders]
      exact .of_holds past (iff_of_true streaming rfl) (grown.trans same) ends holds
    | message a flags =>
      rw [onMessage]
      refine .of_holds past (iff_of_true streaming rfl) ?_ ends (holds.push a)
      rw [grown, messages, List.append_assoc]
      rfl
    | finish =>
      rw [onFinish]
      exact .of_holds rfl (iff_of_false nofun (Option.some_ne_none _)) (grown.trans same) ends
        (holds.finishWith (.ok ()))

/-- Once the stream is closed, nothing that arrives matters to it. -/
theorem Feeds.arrival_of_closed {waiting : List Req} {left : Bool} (past : l.inbound.isPast = true)
    (still : l.inbound ≠ .streaming) (closed : (closing? all).isSome)
    (messages : content all = l.shown ++ waiting)
    (keeps : Keeps l.requests waiting (closing? all) left) (arrival : Arrival (RequestPart Req)) :
    (l.step streams (.arrival arrival : Incident Req Resp)).Feeds (all ++ [arrival]) left := by
  obtain ⟨same, ends⟩ := content_append_of_closed closed [arrival]
  have open_ : closing? (all ++ [arrival]) ≠ none := by
    rw [ends]
    exact Option.isSome_iff_ne_none.mp closed
  have later : ∀ inbound : Inbound Req, inbound.isPast = true → inbound ≠ .streaming →
      { l with inbound }.Feeds (all ++ [arrival]) left := fun inbound past still =>
    .feeds past (iff_of_false still open_) (same.trans messages) (ends ▸ keeps)
  cases arrival with
  | failure e =>
    rw [step_failure_of_not_streaming still]
    exact later .closed rfl nofun
  | part part =>
    rw [step_part_of_over (over_of_closing past still)]
    exact later l.inbound past still

/-- The first part starts the stream, if this is the headers. -/
theorem Feeds.arrival_of_idle (idle : l.inbound = .idle) (never : l.starts = [])
    (unshown : l.shown = []) (keeps : Keeps l.requests [] none false)
    (arrival : Arrival (RequestPart Req)) :
    (l.step true (.arrival arrival : Incident Req Resp)).Feeds [arrival] false := by
  obtain ⟨inbound, headers, requests, ended, starts, answers⟩ := l
  obtain rfl : inbound = .idle := idle
  obtain rfl : starts = [] := never
  cases arrival with
  | failure e => exact .lost rfl rfl
  | part part =>
    cases part with
    | headers m =>
      exact .of_holds rfl (iff_of_true rfl rfl) (congrArg (· ++ []) unshown.symm) rfl
        (keeps.fed rfl)
    | message a flags => exact .lost rfl rfl
    | finish => exact .lost rfl rfl

theorem Feeds.arrival (feeds : l.Feeds all false) (arrival : Arrival (RequestPart Req)) :
    (l.step true (.arrival arrival : Incident Req Resp)).Feeds (all ++ [arrival]) false := by
  cases feeds with
  | idle nothing idle never unshown keeps =>
    subst nothing
    exact .arrival_of_idle idle never unshown keeps arrival
  | lost closed never =>
    cases arrival with
    | failure e =>
      rw [step_failure_of_not_streaming (by rw [closed]; nofun)]
      exact .lost rfl never
    | part part =>
      rw [step_part_of_over (Or.inr closed)]
      exact .lost closed never
  | feeds past streaming messages keeps =>
    cases closing : closing? all with
    | none =>
      exact .arrival_of_open (streaming.mpr closing) closing messages (closing ▸ keeps.fed rfl)
        arrival
    | some outcome =>
      have still := mt streaming.mp (by rw [closing]; nofun)
      exact .arrival_of_closed past still (by rw [closing]; rfl) messages keeps arrival

theorem Feeds.step (feeds : l.Feeds all false) (incident : Incident Req Resp) :
    (l.step true incident).Feeds (all ++ incident.arrival?.toList) false := by
  cases incident with
  | arrival arrival => exact feeds.arrival arrival
  | entry part =>
    rw [show (Incident.entry part : Incident Req Resp).arrival?.toList = [] from rfl,
      List.append_nil]
    cases feeds with
    | idle nothing idle never unshown keeps => exact .idle nothing idle never unshown keeps
    | lost closed never => exact .lost closed never
    | feeds past streaming messages keeps => exact .feeds past streaming messages keeps

theorem Feeds.after (feeds : l.Feeds all false) (incidents : List (Incident Req Resp)) :
    (l.after true incidents).Feeds (all ++ arrivals incidents) false := by
  induction incidents generalizing l all with
  | nil =>
    rw [show arrivals ([] : List (Incident Req Resp)) = [] from rfl, List.append_nil]
    exact feeds
  | cons incident rest ih =>
    have fed := ih (feeds.step incident)
    rwa [List.append_assoc, ← arrivals_cons] at fed

/-- The ledger after a poll of the stream. -/
def polled (l : Ledger Req) : Ledger Req :=
  { l with requests := l.requests.pull.2, answers := l.answers ++ [l.requests.pull.1] }

theorem shown_polled (l : Ledger Req) :
    l.polled.shown = l.shown ++ (MessageStream.pulledItem? l.requests.pull.1).toList := by
  unfold shown polled
  rw [List.filterMap_append]
  cases h : MessageStream.pulledItem? l.requests.pull.1 with
  | none => simp [h]
  | some item => simp [h]

/-- A poll shows the first message that waits. -/
theorem Feeds.polled {left : Bool} (feeds : l.Feeds all left) : l.polled.Feeds all left := by
  cases feeds with
  | idle nothing idle never unshown keeps =>
    obtain ⟨answer, later⟩ := keeps.pull
    refine .idle nothing idle never ?_ later
    rw [shown_polled, unshown, answer, MessageStream.pulledItem?_offer]
    rfl
  | lost closed never => exact .lost closed never
  | @feeds waiting past streaming messages keeps =>
    obtain ⟨answer, later⟩ := keeps.pull
    refine .feeds past streaming ?_ later
    rw [shown_polled, answer, MessageStream.pulledItem?_offer, messages, List.append_assoc]
    cases waiting <;> rfl

theorem Feeds.abandon (feeds : l.Feeds all false) :
    { l with requests := l.requests.abandon }.Feeds all true := by
  cases feeds with
  | idle nothing idle never unshown keeps => exact .idle nothing idle never unshown keeps.abandon
  | lost closed never => exact .lost closed never
  | feeds past streaming messages keeps => exact .feeds past streaming messages keeps.abandon

end Ledger

/-- Headers that come again are ignored, and so is everything once the stream is closed. -/
theorem Ledger.Feeds.ignores {l : Ledger Req} {all : List (Arrival (RequestPart Req))}
    {left streams : Bool} (feeds : l.Feeds all left) {call : Call σ Req}
    (same : call.inbound = l.inbound) {part : RequestPart Req}
    (late : all ≠ [] ∧ part.kind = .metadata ∨ (closing? all).isSome) :
    Pass.advance streams call part = (call, .ignore) := by
  cases feeds with
  | idle nothing idle never unshown keeps =>
    rw [nothing] at late
    rcases late with ⟨some, -⟩ | closed
    · exact absurd rfl some
    · cases closed
  | lost closed never => exact Pass.advance_of_over (Or.inr (same.trans closed)) part
  | feeds past streaming messages keeps =>
    by_cases still : l.inbound = .streaming
    · rcases late with ⟨-, headers⟩ | closed
      · unfold Pass.advance
        rw [same.trans still]
        cases part with
        | headers m => rfl
        | message a flags => cases headers
        | finish => cases headers
      · rw [streaming.mp still] at closed
        cases closed
    · exact Pass.advance_of_over (same ▸ Ledger.over_of_closing past still) part

/-! ### Runs -/

/-- Whether nobody can feed the request stream after an event. -/
def Event.abandons : Event σ P Req Resp → Bool
  | abandon => true
  | _ => false

theorem Orderly.isQuiet_of_left {call : Call σ Req} {events : List (Event σ P Req Resp)}
    {event : Event σ P Req Resp} (orderly : Orderly method call (events ++ [event]))
    (left : events.any Event.abandons = true) : event.isQuiet = true := by
  obtain ⟨first, mem, abandons⟩ := List.any_eq_true.mp left
  obtain ⟨before, after, rfl⟩ := List.append_of_mem mem
  cases first with
  | abandon => exact orderly.abandoned before (after ++ [event]) (by simp) event (by simp)
  | poll => cases abandons
  | receive part => cases abandons
  | error e => cases abandons
  | release => cases abandons
  | write transport message compression => cases abandons
  | finish result => cases abandons
  | use how => cases abandons

theorem Ledger.Feeds.tend {l : Ledger Req} {all : List (Arrival (RequestPart Req))}
    (feeds : l.Feeds all false) (event : Event σ P Req Resp) :
    (event.tend l).Feeds all event.abandons := by
  cases event with
  | poll => exact feeds.polled
  | abandon => exact feeds.abandon
  | receive part => exact feeds
  | error e => exact feeds
  | release => exact feeds
  | write transport message compression => exact feeds
  | finish result => exact feeds
  | use how => exact feeds

namespace Call

/-- Every run keeps the stream of requests in line with what has arrived and what was shown. -/
theorem feeds_run (streams : method.shape.streamsRequests = true) (path : String) (shared : σ)
    {events : List (Event σ P Req Resp)} (orderly : Orderly method (fresh path shared) events) :
    ((fresh path shared).account method events).Feeds
      (arrivals ((fresh path shared).incidents method events)) (events.any Event.abandons) := by
  induction events using List.reverseRecOn with
  | nil => exact Ledger.feeds_fresh
  | append_singleton events event ih =>
    have before := ih orderly.of_append
    rw [account_concat, Event.ledger_pass, streams, incidents_concat, arrivals_append,
      List.any_append, List.any_cons, List.any_nil, Bool.or_false]
    cases left : events.any Event.abandons with
    | false =>
      rw [left] at before
      rw [Bool.false_or]
      exact (before.after _).tend event
    | true =>
      -- Whoever is still there only polls the stream, or uses the context.
      rw [left] at before
      rw [Bool.true_or]
      have quiet := orderly.isQuiet_of_left left
      cases event with
      | poll =>
        rw [show arrivals (Event.poll.incidents method _) = [] from rfl, List.append_nil]
        exact before.polled
      | use how =>
        rw [show arrivals ((Event.use how).incidents method _) = [] from rfl, List.append_nil]
        exact before
      | receive part => cases quiet
      | error e => cases quiet
      | release => cases quiet
      | write transport message compression => cases quiet
      | finish result => cases quiet
      | abandon => cases quiet

/-- As long as the stream of requests is not left, the events need not be in order for that. -/
theorem feeds_run_of_fed (streams : method.shape.streamsRequests = true) (path : String)
    (shared : σ) {events : List (Event σ P Req Resp)}
    (fed : ∀ event ∈ events, event.abandons = false) :
    ((fresh path shared).account method events).Feeds
      (arrivals ((fresh path shared).incidents method events)) false := by
  induction events using List.reverseRecOn with
  | nil => exact Ledger.feeds_fresh
  | append_singleton events event ih =>
    obtain ⟨earlier, last⟩ := List.forall_mem_append.mp fed
    have before := ih earlier
    rw [account_concat, Event.ledger_pass, streams, incidents_concat, arrivals_append]
    rw [← last event (List.mem_singleton_self event)]
    exact (before.after _).tend event

end Call

/-! ### The start of the handler -/

/-- What was said begins with what arrived first. -/
theorem said_of_first (part : RequestPart Req) (later : List (Arrival (RequestPart Req))) :
    ∃ rest, said (.part part :: later) = part :: rest :=
  ⟨_, rfl⟩

theorem first_of_said {all : List (Arrival (RequestPart Req))} {part : RequestPart Req}
    {rest : List (RequestPart Req)} (told : said all = part :: rest) :
    ∃ later, all = .part part :: later := by
  match all, told with
  | .part first :: later, told =>
    obtain ⟨rest', begins⟩ := said_of_first first later
    rw [begins] at told
    injection told with same
    exact ⟨later, by rw [same]⟩

/-- Headers that arrive first start the handler. -/
theorem Ledger.Stands.of_first_headers {l : Ledger Req} {m : Metadata}
    {later : List (Arrival (RequestPart Req))}
    (stands : l.Stands true (.part (.headers m) :: later)) : l.starts = [none] ∧ l.headers = m := by
  obtain ⟨rest, begins⟩ := said_of_first (.headers m) later
  have not_waits : ∀ {inbound : Inbound Req} {m' : Metadata},
      ¬Waits true (said (.part (.headers m) :: later)) inbound m' := by
    intro inbound m' waits
    cases waits with
    | idle nothing idle => cases nothing
    | awaiting single headers awaiting => cases single
    | holding single message holding => cases single
  cases stands with
  | waits fine never waits => exact absurd waits not_waits
  | cut gone never closed waits => exact absurd waits not_waits
  | rejected never closed deviates =>
    exact absurd (begins ▸ deviates) (not_deviates_of_stream rfl)
  | single single once past told => cases single
  | stream stream once past told =>
    rw [begins] at told
    injection told with headers
    injection headers with headers
    exact ⟨once, headers.symm⟩

/-- Nothing else starts it. -/
theorem Ledger.Stands.first_of_mem_starts {l : Ledger Req}
    {all : List (Arrival (RequestPart Req))} (stands : l.Stands true all) {request : Option Req}
    (begun : request ∈ l.starts) :
    request = none ∧ ∃ m later, all = .part (.headers m) :: later := by
  cases stands with
  | waits fine never waits => rw [never] at begun; cases begun
  | cut gone never closed waits => rw [never] at begun; cases begun
  | rejected never closed deviates => rw [never] at begun; cases begun
  | single single once past told => cases single
  | stream stream once past told =>
    rw [once] at begun
    exact ⟨List.mem_singleton.mp begun, l.headers, first_of_said told⟩

/-- What a method that takes a stream of requests does in a run of a call. -/
structure Call.ServesStream (method : Method σ P Req Resp) (call : Call σ Req)
    (events : List (Event σ P Req Resp)) : Prop where
  once : (call.starts method events).length ≤ 1
  /-- The handler is started with the stream of requests, by headers that arrive first. -/
  started : ∀ request, request ∈ call.starts method events ↔ request = none ∧
    ∃ m later, arrivals (call.incidents method events) = .part (.headers m) :: later
  headers : ∀ m later, arrivals (call.incidents method events) = .part (.headers m) :: later →
    (call.run method events).context.headers = m
  /-- What has not started the handler before the call is let go of does not start it. -/
  released : ∀ before after, events = before ++ .release :: after →
    call.starts method events = call.starts method before
  /-- Any other first part starts nothing. When it arrives, the end enters the chain, and no other
  one does before or after. -/
  rejected : ∀ part later, arrivals (call.incidents method events) = .part part :: later →
    part.kind ≠ .metadata → call.starts method events = [] ∧
    ∃ before event after, events = before ++ event :: after ∧
      arrivals (call.incidents method before) = [] ∧
      arrivals (event.incidents method (call.run method before)) ≠ [] ∧
      EndsAt method call Pass.Rejection.beforeHeaders.status before event after
  /-- Polls have shown the first messages behind the headers, in order. The others wait, and
  behind them the end, for as long as anybody could still feed the stream. -/
  yields : ∀ m later, arrivals (call.incidents method events) = .part (.headers m) :: later →
    let end? := finale (closing? later) (events.any Event.abandons)
    ∃ waiting,
      content later =
        (call.answers method events).filterMap MessageStream.pulledItem? ++ waiting ∧
      (call.run method events).requests.pull.1 = MessageStream.offer waiting end? ∧
      ∀ outcome, end? = some outcome → (call.run method events).requests.drain.1 =
        waiting.map (fun a => .ready (.ok (some a))) ++ [.ready (MessageStream.ofEnding outcome)]
  /-- Headers that come again change nothing, nor does what comes behind the end. -/
  ignored : ∀ part, arrivals (call.incidents method events) ≠ [] ∧ part.kind = .metadata ∨
      (closing? (arrivals (call.incidents method events))).isSome →
    ∀ p : Pass σ P Req, p.call.inbound = (call.run method events).inbound →
      p.onRequest method part = p ∧ p.onRequestWhileEmitting method part = p

theorem deviates_of_first {all : List (Arrival (RequestPart Req))} {part : RequestPart Req}
    {later : List (Arrival (RequestPart Req))} {streams : Bool} (first : all = .part part :: later)
    (other : part.kind ≠ .metadata) : Deviates streams .beforeHeaders (said all) := by
  obtain ⟨rest, begins⟩ := said_of_first part later
  rw [first, begins]
  exact .beforeHeaders other

namespace Call

/-- When something else than headers arrives first, the end enters the chain, and no other one
does before or after. -/
theorem rejects_first (path : String) (shared : σ) {events : List (Event σ P Req Resp)}
    (orderly : Orderly method (fresh path shared) events)
    {part : RequestPart Req} {later : List (Arrival (RequestPart Req))}
    (first : arrivals ((fresh path shared).incidents method events) = .part part :: later)
    (other : part.kind ≠ .metadata) :
    ∃ before event after, events = before ++ event :: after ∧
      arrivals ((fresh path shared).incidents method before) = [] ∧
      arrivals (event.incidents method ((fresh path shared).run method before)) ≠ [] ∧
      EndsAt method (fresh path shared) Pass.Rejection.beforeHeaders.status before event after := by
  obtain ⟨before, event, after, rfl, fine, bad, ends⟩ :=
    rejects path shared orderly (deviates_of_first first other)
  refine ⟨before, event, after, rfl, ?_, fun nothing => ?_, ends⟩
  · cases heard : arrivals ((fresh path shared).incidents method before) with
    | nil => rfl
    | cons arrival others =>
      rw [incidents_append, arrivals_append, heard, List.cons_append] at first
      injection first with same
      exact absurd (deviates_of_first (heard.trans (by rw [same])) other) (fine .beforeHeaders)
  · rw [incidents_concat, arrivals_append, nothing, List.append_nil] at bad
    exact fine _ bad

/-- A method that takes a stream of requests starts its handler with the headers, and feeds it
every message up to the end or the first failure, or it rejects what comes before the headers. -/
theorem serves_request_stream (streams : method.shape.streamsRequests = true) (path : String)
    (shared : σ) {events : List (Event σ P Req Resp)}
    (orderly : Orderly method (fresh path shared) events) :
    (fresh path shared).ServesStream method events := by
  have tracks := tracks_run path shared orderly
  have stands : ((fresh path shared).account method events).Stands true
      (arrivals ((fresh path shared).incidents method events)) := streams ▸ tracks.stands
  have feeds := feeds_run streams path shared orderly
  constructor
  case once => exact length_starts_le_one path shared orderly
  case started =>
    intro request
    constructor
    · exact fun begun => stands.first_of_mem_starts begun
    · rintro ⟨rfl, m, later, first⟩
      rw [first] at stands
      rw [show (fresh path shared).starts method events = _ from stands.of_first_headers.1]
      exact List.mem_singleton_self _
  case headers =>
    intro m later first
    rw [first] at stands
    exact stands.of_first_headers.2
  case released =>
    rintro before after rfl
    exact starts_of_released path shared orderly
  case rejected =>
    intro part later first other
    have never := (stands.of_deviates (deviates_of_first first other)).1
    exact ⟨never, rejects_first path shared orderly first other⟩
  case yields =>
    intro m later first
    rw [first] at stands feeds
    cases feeds with
    | idle nothing idle never unshown keeps => cases nothing
    | lost closed never =>
      rw [stands.of_first_headers.1] at never
      cases never
    | @feeds waiting past streaming messages keeps =>
      exact ⟨waiting, messages, keeps.pull.1, fun outcome ends => (ends ▸ keeps.yields).drain⟩
  case ignored =>
    exact fun part late p same => Pass.onRequest_of_ignores (feeds.ignores same late)

end Call

/-- A method that takes a stream of texts and returns one. -/
def collecting : Method Unit String String String where
  shape := .clientStreaming
  requests := .verbatim
  responses := .verbatim

/-- What came before the failure is read before the failure. -/
theorem Call.serves_failed_stream :
    let call : Call Unit String := fresh "/echo.Echo/Collect" ()
    let first : Metadata := Metadata.empty.insert "x" "first"
    let received : List (RequestPart String) :=
      [.headers first, .message "one" {}, .headers .empty, .message "two" {}]
    let events : List (Event Unit String String String) :=
      received.map .receive ++ [.poll] ++ [.error .cancelled] ++ [.release]
    collecting.shape.streamsRequests = true ∧ Orderly collecting call events ∧
    call.starts collecting events = [none] ∧
    (call.run collecting events).context.headers = first ∧
    (call.answers collecting events).filterMap MessageStream.pulledItem? = ["one"] ∧
    (call.run collecting events).requests.drain.1 =
      [.ready (.ok (some "two")), .ready (.error .cancelled)] := by
  intro call first received events
  have orderly : Orderly collecting call events :=
    (((Orderly.of_received collecting call received).concat .poll nofun (by simp) (by simp)).concat
      (.error .cancelled) nofun (by simp) (by simp)).concat .release nofun (by simp) (by simp)
  have serves := serves_request_stream rfl "/echo.Echo/Collect" () orderly
  obtain ⟨waiting, messages, -, drained⟩ := serves.yields first _ rfl
  have left : ["one"] ++ ["two"] = ["one"] ++ waiting := messages
  obtain rfl := List.append_cancel_left left
  exact ⟨rfl, orderly, rfl, serves.headers first _ rfl, rfl, drained (.error .cancelled) rfl⟩

end RemoteCall.Server
