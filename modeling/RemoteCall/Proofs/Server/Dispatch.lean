import RemoteCall.Proofs.Server.Attendance
import RemoteCall.Proofs.Server.Incidents

/-!
# Starting a handler

Where the request side of a call stands depends on what has arrived at it: on the parts that were
`heard` before the first failure, and of those on the first one and on what follows it, apart from
further headers (`substance`). `Stands` lists the possibilities, for methods that take one request
and for methods that take a stream of them. Incidents keep it in any order, so it holds of every
run (`Call.tracks_run`): whether the handler was started, with what, and why not.

A part that deviates from what the method takes makes the end enter the chain. For this the
outbound gate has to be open still, and it is: whoever writes to the call got the writer from the
handler (`Orderly`).
-/

namespace RemoteCall.Server

variable {σ P Req Resp : Type}

/-! ### What has arrived -/

/-- The parts that arrive before the first failure. -/
def heard : List (Arrival (RequestPart Req)) → List (RequestPart Req)
  | .part part :: rest => part :: heard rest
  | _ => []

def failed (arrivals : List (Arrival (RequestPart Req))) : Bool :=
  arrivals.any fun arrival => arrival.part?.isNone

theorem heard_append (first second : List (Arrival (RequestPart Req))) :
    heard (first ++ second) = heard first ++ if failed first then [] else heard second := by
  induction first with
  | nil => rfl
  | cons arrival rest ih =>
    cases arrival with
    | failure e => rfl
    | part part => exact congrArg (part :: ·) ih

theorem failed_append (first second : List (Arrival (RequestPart Req))) :
    failed (first ++ second) = (failed first || failed second) :=
  List.any_append

/-- The first part, and the others apart from headers. -/
def substance : List (RequestPart Req) → List (RequestPart Req)
  | [] => []
  | first :: rest => first :: rest.filter fun part => part.kind != .metadata

theorem substance_eq_nil_iff {parts : List (RequestPart Req)} :
    substance parts = [] ↔ parts = [] := by
  cases parts <;> simp [substance]

theorem substance_append {parts : List (RequestPart Req)} (some : substance parts ≠ [])
    (more : List (RequestPart Req)) :
    substance (parts ++ more) =
      substance parts ++ more.filter fun part => part.kind != .metadata := by
  cases parts with
  | nil => exact absurd rfl some
  | cons first rest => simp [substance]

/-- What a call has been told, apart from repeated headers, before anything failed. -/
def said (arrivals : List (Arrival (RequestPart Req))) : List (RequestPart Req) :=
  substance (heard arrivals)

/-- What more a part tells a call that has been told this. -/
def adds (told : List (RequestPart Req)) (part : RequestPart Req) : List (RequestPart Req) :=
  if told = [] then [part] else [part].filter fun part => part.kind != .metadata

theorem said_part {arrivals : List (Arrival (RequestPart Req))} (open_ : failed arrivals = false)
    (part : RequestPart Req) :
    said (arrivals ++ [.part part]) = said arrivals ++ adds (said arrivals) part := by
  unfold said adds
  rw [heard_append, open_, if_neg Bool.false_ne_true]
  by_cases nothing : substance (heard arrivals) = []
  · rw [if_pos nothing, nothing, substance_eq_nil_iff.mp nothing]
    rfl
  · rw [if_neg nothing]
    exact substance_append nothing _

theorem said_of_failed {arrivals : List (Arrival (RequestPart Req))}
    (gone : failed arrivals = true) (more : List (Arrival (RequestPart Req))) :
    said (arrivals ++ more) = said arrivals := by
  unfold said
  rw [heard_append, if_pos gone, List.append_nil]

theorem exists_said_append (arrivals more : List (Arrival (RequestPart Req))) :
    ∃ rest, said (arrivals ++ more) = said arrivals ++ rest := by
  by_cases nothing : said arrivals = []
  · rw [nothing]
    exact ⟨_, rfl⟩
  · unfold said at nothing ⊢
    rw [heard_append]
    exact ⟨_, substance_append nothing _⟩

theorem said_failure (arrivals : List (Arrival (RequestPart Req))) (e : CallError) :
    said (arrivals ++ [.failure e]) = said arrivals := by
  unfold said
  rw [heard_append]
  cases failed arrivals <;> simp [heard]

/-! ### What a method takes -/

/-- What was said is not what the method takes. -/
inductive Deviates (streams : Bool) : Pass.Rejection → List (RequestPart Req) → Prop where
  | beforeHeaders {first : RequestPart Req} {rest : List (RequestPart Req)}
      (early : first.kind ≠ .metadata) : Deviates streams .beforeHeaders (first :: rest)
  | noMessage {m : Metadata} {rest : List (RequestPart Req)} (single : streams = false) :
      Deviates streams .noMessage (.headers m :: .finish :: rest)
  | manyMessages {m : Metadata} {a b : Req} {flags flags' : MessageFlags}
      {rest : List (RequestPart Req)} (single : streams = false) :
      Deviates streams .manyMessages
        (.headers m :: .message a flags :: .message b flags' :: rest)

theorem Deviates.append {streams : Bool} {reason : Pass.Rejection}
    {told : List (RequestPart Req)} (deviates : Deviates streams reason told)
    (more : List (RequestPart Req)) : Deviates streams reason (told ++ more) := by
  cases deviates with
  | beforeHeaders early => exact .beforeHeaders early
  | noMessage single => exact .noMessage single
  | manyMessages single => exact .manyMessages single

theorem Deviates.unique {streams : Bool} {reason reason' : Pass.Rejection}
    {told : List (RequestPart Req)} (first : Deviates streams reason told)
    (second : Deviates streams reason' told) : reason = reason' := by
  cases first with
  | beforeHeaders early =>
    cases second with
    | beforeHeaders _ => rfl
    | noMessage _ => exact absurd rfl early
    | manyMessages _ => exact absurd rfl early
  | noMessage single =>
    cases second with
    | beforeHeaders early => exact absurd rfl early
    | noMessage _ => rfl
  | manyMessages single =>
    cases second with
    | beforeHeaders early => exact absurd rfl early
    | manyMessages _ => rfl

theorem not_deviates_of_single {streams : Bool} {reason : Pass.Rejection} {m : Metadata} {a : Req}
    {flags : MessageFlags} {rest : List (RequestPart Req)} :
    ¬Deviates streams reason (.headers m :: .message a flags :: .finish :: rest) := by
  intro deviates
  cases deviates with
  | beforeHeaders early => exact early rfl

theorem not_deviates_of_stream {streams : Bool} (stream : streams = true)
    {reason : Pass.Rejection} {m : Metadata} {rest : List (RequestPart Req)} :
    ¬Deviates streams reason (.headers m :: rest) := by
  intro deviates
  cases deviates with
  | beforeHeaders early => exact early rfl
  | noMessage single => exact absurd (stream.symm.trans single) nofun
  | manyMessages single => exact absurd (stream.symm.trans single) nofun

/-- The request side waits for more before the handler can be started. -/
inductive Waits (streams : Bool) (told : List (RequestPart Req)) (inbound : Inbound Req)
    (m : Metadata) : Prop where
  | idle (nothing : told = []) (idle : inbound = .idle)
  | awaiting (single : streams = false) (headers : told = [.headers m])
      (awaiting : inbound = .awaiting)
  | holding {a : Req} {flags : MessageFlags} (single : streams = false)
      (message : told = [.headers m, .message a flags]) (holding : inbound = .holding a)

theorem Waits.isPast {streams : Bool} {told : List (RequestPart Req)} {inbound : Inbound Req}
    {m : Metadata} (waits : Waits streams told inbound m) : inbound.isPast = false := by
  cases waits with
  | idle nothing idle => rw [idle]; rfl
  | awaiting single headers awaiting => rw [awaiting]; rfl
  | holding single message holding => rw [holding]; rfl

theorem Waits.not_deviates {streams : Bool} {told : List (RequestPart Req)}
    {inbound : Inbound Req} {m : Metadata} (waits : Waits streams told inbound m)
    (reason : Pass.Rejection) : ¬Deviates streams reason told := by
  intro deviates
  cases waits with
  | idle nothing idle =>
    subst nothing
    cases deviates
  | awaiting single headers awaiting =>
    subst headers
    cases deviates with
    | beforeHeaders early => exact early rfl
  | holding single message holding =>
    subst message
    cases deviates with
    | beforeHeaders early => exact early rfl

/-- What the request side has done about a part, when this was said up to and with the part. -/
inductive Takes (streams : Bool) (told : List (RequestPart Req)) (call : Call σ Req) :
    Pass.Reaction Req → Prop where
  | waits (waits : Waits streams told call.inbound call.context.headers) :
      Takes streams told call .ignore
  | single {a : Req} {flags : MessageFlags} (single : streams = false)
      (running : call.inbound = .running)
      (all : told = [.headers call.context.headers, .message a flags, .finish]) :
      Takes streams told call (.start (some a))
  | stream (stream : streams = true) (streaming : call.inbound = .streaming)
      (headers : told = [.headers call.context.headers]) : Takes streams told call (.start none)
  | rejects {reason : Pass.Rejection} (closed : call.inbound = .closed)
      (deviates : Deviates streams reason told) : Takes streams told call (.reject reason)

/-- A part is rejected if it makes what was said deviate, and only then. -/
theorem Takes.deviates_iff {streams : Bool} {told : List (RequestPart Req)} {call : Call σ Req}
    {reaction : Pass.Reaction Req} (takes : Takes streams told call reaction)
    (reason : Pass.Rejection) : Deviates streams reason told ↔ reaction = .reject reason := by
  cases takes with
  | waits waits => exact iff_of_false (waits.not_deviates reason) nofun
  | single single running all => exact iff_of_false (all ▸ not_deviates_of_single) nofun
  | stream stream streaming headers =>
    exact iff_of_false (headers ▸ not_deviates_of_stream stream) nofun
  | @rejects before closed deviates =>
    constructor
    · intro deviates'
      rw [deviates.unique deviates']
    · intro same
      injection same with same
      exact same ▸ deviates

/-- While the request side waits, a part lets it wait on, starts the handler or is rejected. -/
theorem Waits.advance {streams : Bool} {told : List (RequestPart Req)} {call : Call σ Req}
    (waits : Waits streams told call.inbound call.context.headers) (part : RequestPart Req) :
    Takes streams (told ++ adds told part) (Pass.advance streams call part).1
      (Pass.advance streams call part).2 := by
  cases waits with
  | idle nothing idle =>
    subst nothing
    simp only [Pass.advance, idle]
    cases part with
    | headers m =>
      cases streams with
      | true => exact .stream rfl rfl rfl
      | false => exact .waits (.awaiting rfl rfl rfl)
    | message a flags => exact .rejects rfl (.beforeHeaders fun kind => by cases kind)
    | finish => exact .rejects rfl (.beforeHeaders fun kind => by cases kind)
  | awaiting single one awaiting =>
    subst single
    have more : told ++ adds told part =
        [.headers call.context.headers] ++ [part].filter fun part => part.kind != .metadata := by
      rw [adds, one, if_neg (by simp)]
    rw [more]
    simp only [Pass.advance, awaiting]
    cases part with
    | headers m => exact .waits (.awaiting rfl rfl awaiting)
    | message a flags => exact .waits (.holding rfl rfl rfl)
    | finish => exact .rejects rfl (.noMessage rfl)
  | @holding a flags single two holding =>
    subst single
    have more : told ++ adds told part =
        [.headers call.context.headers, .message a flags] ++
          [part].filter fun part => part.kind != .metadata := by
      rw [adds, two, if_neg (by simp)]
    rw [more]
    simp only [Pass.advance, holding]
    cases part with
    | headers m => exact .waits (.holding rfl rfl holding)
    | message b flags' => exact .rejects rfl (.manyMessages rfl)
    | finish => exact .single rfl rfl rfl

namespace Pass

/-- Once a request is complete or was closed, nothing is taken any more. -/
theorem advance_of_over {call : Call σ Req}
    (gone : call.inbound = .running ∨ call.inbound = .closed) {streams : Bool}
    (part : RequestPart Req) : advance streams call part = (call, .ignore) := by
  unfold advance
  rcases gone with at_ | at_ <;> rw [at_]

/-- A part that the request side ignores changes nothing. -/
theorem onRequest_of_ignores {method : Method σ P Req Resp} {p : Pass σ P Req}
    {part : RequestPart Req}
    (ignores : advance method.shape.streamsRequests p.call part = (p.call, .ignore)) :
    p.onRequest method part = p ∧ p.onRequestWhileEmitting method part = p := by
  unfold onRequest onRequestWhileEmitting
  rw [ignores]
  exact ⟨rfl, rfl⟩

end Pass

namespace Ledger

/-- Where the request side stands when this has arrived. -/
inductive Stands (streams : Bool) (all : List (Arrival (RequestPart Req))) (l : Ledger Req) :
    Prop where
  | waits (fine : failed all = false) (never : l.starts = [])
      (waits : Waits streams (said all) l.inbound l.headers)
  /-- Something failed too early. -/
  | cut {inbound : Inbound Req} (gone : failed all = true) (never : l.starts = [])
      (closed : l.inbound = .closed) (waits : Waits streams (said all) inbound l.headers)
  | rejected {reason : Pass.Rejection} (never : l.starts = []) (closed : l.inbound = .closed)
      (deviates : Deviates streams reason (said all))
  /-- The handler was started with the one request. -/
  | single {a : Req} {flags : MessageFlags} {rest : List (RequestPart Req)}
      (single : streams = false) (once : l.starts = [some a])
      (past : l.inbound = .running ∨ l.inbound = .closed)
      (told : said all = .headers l.headers :: .message a flags :: .finish :: rest)
  /-- The handler was started with the stream of requests. -/
  | stream {rest : List (RequestPart Req)} (stream : streams = true) (once : l.starts = [none])
      (past : l.inbound.isPast = true) (told : said all = .headers l.headers :: rest)

variable {streams : Bool} {all : List (Arrival (RequestPart Req))} {l : Ledger Req}

theorem stands_fresh : ({} : Ledger Req).Stands streams [] :=
  .waits rfl rfl (.idle rfl rfl)

theorem step_failure (Resp : Type) (streams : Bool) (l : Ledger Req) (e : CallError) :
    ∃ requests, l.step streams (.arrival (.failure e) : Incident Req Resp) =
      { l with inbound := .closed, requests } := by
  simp only [step, settle, Call.closeInbound, call]
  split
  · exact ⟨_, rfl⟩
  · exact ⟨_, rfl⟩

theorem step_part_of_over (gone : l.inbound = .running ∨ l.inbound = .closed)
    (part : RequestPart Req) :
    l.step streams (.arrival (.part part) : Incident Req Resp) = l := by
  have ignores : Pass.advance streams l.call part = (l.call, .ignore) :=
    Pass.advance_of_over gone part
  simp only [step, ignores]
  simp [settle, call, Pass.Reaction.request?]

/-- Past the start of the handler a part changes neither the headers nor the starts. -/
theorem step_part_of_isPast (Resp : Type) (streams : Bool) (past : l.inbound.isPast = true)
    (part : RequestPart Req) :
    ∃ inbound requests, l.step streams (.arrival (.part part) : Incident Req Resp) =
        { l with inbound, requests } ∧ inbound.isPast = true ∧
      (l.inbound = .running ∨ l.inbound = .closed → inbound = l.inbound) := by
  obtain ⟨inbound, headers, requests, ended, starts, answers⟩ := l
  cases inbound with
  | idle => cases past
  | awaiting => cases past
  | holding a => cases past
  | running =>
    exact ⟨.running, requests, step_part_of_over (Or.inl rfl) part, rfl, fun _ => rfl⟩
  | closed =>
    exact ⟨.closed, requests, step_part_of_over (Or.inr rfl) part, rfl, fun _ => rfl⟩
  | streaming =>
    cases part with
    | headers m =>
      refine ⟨.streaming, requests, ?_, rfl, fun _ => rfl⟩
      simp [step, settle, call, Pass.advance, Pass.Reaction.request?]
    | message a flags =>
      refine ⟨.streaming, (requests.push a).2, ?_, rfl, by simp⟩
      simp [step, settle, call, Pass.advance, Pass.Reaction.request?]
    | finish =>
      refine ⟨.running, (requests.finishWith (.ok ())).2, ?_, rfl, by simp⟩
      simp [step, settle, call, Pass.advance, Pass.Reaction.request?]

/-- A failure closes the request side. -/
theorem Stands.failure (stands : l.Stands streams all) (e : CallError) :
    (l.step streams (.arrival (.failure e) : Incident Req Resp)).Stands streams
      (all ++ [.failure e]) := by
  obtain ⟨requests, stepped⟩ := step_failure Resp streams l e
  have told : said (all ++ [.failure e]) = said all := said_failure all e
  have gone : failed (all ++ [.failure e]) = true := by
    rw [failed_append]
    exact Bool.or_true _
  rw [stepped]
  cases stands with
  | waits fine never waits => exact .cut gone never rfl (told ▸ waits)
  | cut _ never closed waits => exact .cut gone never rfl (told ▸ waits)
  | rejected never closed deviates => exact .rejected never rfl (told ▸ deviates)
  | single single once past begun => exact .single single once (Or.inr rfl) (told.trans begun)
  | stream stream once past begun => exact .stream stream once rfl (told.trans begun)

theorem Stands.part_of_waits (fine : failed all = false) (never : l.starts = [])
    (waits : Waits streams (said all) l.inbound l.headers) (part : RequestPart Req) :
    (l.step streams (.arrival (.part part) : Incident Req Resp)).Stands streams
      (all ++ [.part part]) := by
  have still : failed (all ++ [.part part]) = false := by
    rw [failed_append, fine]
    rfl
  have waits' : Waits streams (said all) l.call.inbound l.call.context.headers := waits
  have takes := waits'.advance part
  rw [← said_part fine] at takes
  cases advanced : Pass.advance streams l.call part with
  | mk call reaction =>
    rw [advanced] at takes
    simp only [step, advanced, never]
    cases takes with
    | waits waits => exact .waits still rfl waits
    | single single running all => exact .single single rfl (Or.inl running) all
    | stream stream streaming headers =>
      refine .stream stream rfl ?_ headers
      show call.inbound.isPast = true
      rw [streaming]
      rfl
    | rejects closed deviates => exact .rejected rfl closed deviates

theorem Stands.part (stands : l.Stands streams all) (part : RequestPart Req) :
    (l.step streams (.arrival (.part part) : Incident Req Resp)).Stands streams
      (all ++ [.part part]) := by
  -- Past the start of the handler nothing but the stream of requests changes.
  have later := fun past : l.inbound.isPast = true => step_part_of_isPast Resp streams past part
  cases stands with
  | waits fine never waits => exact .part_of_waits fine never waits part
  | cut gone never closed waits =>
    obtain ⟨inbound, requests, stepped, past, same⟩ := later (by rw [closed]; rfl)
    rw [stepped]
    have still : failed (all ++ [.part part]) = true := by
      rw [failed_append, gone]
      rfl
    exact .cut still never ((same (Or.inr closed)).trans closed) (said_of_failed gone _ ▸ waits)
  | rejected never closed deviates =>
    obtain ⟨inbound, requests, stepped, past, same⟩ := later (by rw [closed]; rfl)
    obtain ⟨more, told⟩ := exists_said_append all [.part part]
    rw [stepped]
    exact .rejected never ((same (Or.inr closed)).trans closed) (told ▸ deviates.append more)
  | single single once past begun =>
    obtain ⟨inbound, requests, stepped, -, same⟩ :=
      later (by rcases past with at_ | at_ <;> (rw [at_]; rfl))
    obtain ⟨more, told⟩ := exists_said_append all [.part part]
    rw [begun] at told
    rw [stepped]
    exact .single single once ((same past).symm ▸ past) told
  | stream stream once past begun =>
    obtain ⟨inbound, requests, stepped, stays, -⟩ := later past
    obtain ⟨more, told⟩ := exists_said_append all [.part part]
    rw [begun] at told
    rw [stepped]
    exact .stream stream once stays told

/-- Every incident keeps where a call stands in line with what has arrived. -/
theorem Stands.step (stands : l.Stands streams all) (incident : Incident Req Resp) :
    (l.step streams incident).Stands streams (all ++ incident.arrival?.toList) := by
  cases incident with
  | arrival arrival =>
    cases arrival with
    | part part => exact stands.part part
    | failure e => exact stands.failure e
  | entry part =>
    rw [show (Incident.entry part : Incident Req Resp).arrival?.toList = [] from rfl,
      List.append_nil]
    cases stands with
    | waits fine never waits => exact .waits fine never waits
    | cut gone never closed waits => exact .cut gone never closed waits
    | rejected never closed deviates => exact .rejected never closed deviates
    | single single once past told => exact .single single once past told
    | stream stream once past told => exact .stream stream once past told

theorem Stands.after (stands : l.Stands streams all) (incidents : List (Incident Req Resp)) :
    (l.after streams incidents).Stands streams (all ++ arrivals incidents) := by
  induction incidents generalizing l all with
  | nil =>
    rw [show arrivals ([] : List (Incident Req Resp)) = [] from rfl, List.append_nil]
    exact stands
  | cons incident rest ih =>
    have stood := ih (stands.step incident)
    rwa [List.append_assoc, ← arrivals_cons] at stood

/-- As long as it is not past the start of the handler, the request side waits. -/
theorem Stands.of_not_isPast (stands : l.Stands streams all) (early : l.inbound.isPast = false) :
    failed all = false ∧ l.starts = [] ∧ Waits streams (said all) l.inbound l.headers := by
  cases stands with
  | waits fine never waits => exact ⟨fine, never, waits⟩
  | cut gone never closed waits => rw [closed] at early; cases early
  | rejected never closed deviates => rw [closed] at early; cases early
  | single single once past told => rcases past with at_ | at_ <;> (rw [at_] at early; cases early)
  | stream stream once past told => rw [past] at early; cases early

/-- The handler was started only if the request side is past that. -/
theorem Stands.isPast_of_starts (stands : l.Stands streams all) (some : l.starts ≠ []) :
    l.inbound.isPast = true := by
  cases stands with
  | waits fine never waits => exact absurd never some
  | cut gone never closed waits => exact absurd never some
  | rejected never closed deviates => exact absurd never some
  | single single once past told => rcases past with at_ | at_ <;> (rw [at_]; rfl)
  | stream stream once past told => exact past

/-- The handler is started at most once. -/
theorem Stands.length_starts_le_one (stands : l.Stands streams all) : l.starts.length ≤ 1 := by
  cases stands with
  | waits fine never waits => rw [never]; exact Nat.zero_le 1
  | cut gone never closed waits => rw [never]; exact Nat.zero_le 1
  | rejected never closed deviates => rw [never]; exact Nat.zero_le 1
  | single single once past told => rw [once]; exact Nat.le_refl 1
  | stream stream once past told => rw [once]; exact Nat.le_refl 1

/-- What deviates starts no handler, and nothing is taken any more. -/
theorem Stands.of_deviates (stands : l.Stands streams all) {reason : Pass.Rejection}
    (deviates : Deviates streams reason (said all)) : l.starts = [] ∧ l.inbound = .closed := by
  cases stands with
  | waits fine never waits => exact absurd deviates (waits.not_deviates reason)
  | cut gone never closed waits => exact ⟨never, closed⟩
  | rejected never closed deviates => exact ⟨never, closed⟩
  | single single once past told => exact absurd (told ▸ deviates) not_deviates_of_single
  | stream stream once past told => exact absurd (told ▸ deviates) (not_deviates_of_stream stream)

/-- Past the start of the handler nothing deviates any more that did not deviate before. -/
theorem Stands.deviates_of_isPast (stands : l.Stands streams all)
    (past : l.inbound.isPast = true) (more : List (Arrival (RequestPart Req)))
    {reason : Pass.Rejection} (deviates : Deviates streams reason (said (all ++ more))) :
    Deviates streams reason (said all) := by
  obtain ⟨rest, told⟩ := exists_said_append all more
  cases stands with
  | waits fine never waits => exact absurd (past.symm.trans waits.isPast) nofun
  | cut gone never closed waits =>
    rwa [said_of_failed gone] at deviates
  | rejected never closed before =>
    rw [told] at deviates
    rwa [deviates.unique (before.append rest)]
  | single single once past begun =>
    rw [told, begun] at deviates
    exact absurd deviates not_deviates_of_single
  | stream stream once past begun =>
    rw [told, begun] at deviates
    exact absurd deviates (not_deviates_of_stream stream)

end Ledger

end RemoteCall.Server
