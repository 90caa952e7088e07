import RemoteCall.Proofs.Server.Orderly

/-!
# Methods that take one request

Such a method starts its handler when it has been told the headers, one message and the end, in
this order and whatever other headers come between, if nothing fails before that. Anything else
is rejected. `Call.serves_single_request` says so for every chain of interceptors and every
orderly run.
-/

namespace RemoteCall.Server

variable {σ P Req Resp : Type} {method : Method σ P Req Resp}

/-- The parts are the headers, one message and the end, before anything else. -/
def TellsRequest (told : List (RequestPart Req)) (m : Metadata) (request : Req) : Prop :=
  ∃ flags rest, told = .headers m :: .message request flags :: .finish :: rest

/-- What a method that takes one request does in a run of a call. -/
structure Call.ServesSingle (method : Method σ P Req Resp) (call : Call σ Req)
    (events : List (Event σ P Req Resp)) : Prop where
  once : (call.starts method events).length ≤ 1
  /-- The handler is started with a request, and with the one that was told. -/
  started : ∀ request, request ∈ call.starts method events ↔ ∃ m message, request = some message ∧
    TellsRequest (said (arrivals (call.incidents method events))) m message
  /-- It sees the first headers. -/
  headers : ∀ m message, TellsRequest (said (arrivals (call.incidents method events))) m message →
    (call.run method events).context.headers = m
  /-- What has not started the handler before the call is let go of does not start it. -/
  released : ∀ before after, events = before ++ .release :: after →
    call.starts method events = call.starts method before
  /-- A request that deviates starts nothing. When the first part that deviates arrives, the end
  enters the chain, and no other one does before or after. -/
  rejected : ∀ reason, Deviates false reason (said (arrivals (call.incidents method events))) →
    call.starts method events = [] ∧
    ∃ before event after, events = before ++ event :: after ∧
      (∀ reason', ¬Deviates false reason' (said (arrivals (call.incidents method before)))) ∧
      Deviates false reason (said (arrivals (call.incidents method (before ++ [event])))) ∧
      EndsAt method call reason.status before event after
  /-- A part that leaves the chain after that changes nothing. -/
  ignored : ∀ reason, Deviates false reason (said (arrivals (call.incidents method events))) →
    ∀ part (p : Pass σ P Req), p.call.inbound = (call.run method events).inbound →
      p.onRequest method part = p ∧ p.onRequestWhileEmitting method part = p

/-- What a call that is told its request has done about it. -/
theorem Ledger.Stands.of_tellsRequest {all : List (Arrival (RequestPart Req))} {l : Ledger Req}
    (stands : l.Stands false all) {m : Metadata} {message : Req}
    (tells : TellsRequest (said all) m message) : l.starts = [some message] ∧ l.headers = m := by
  obtain ⟨flags, rest, told⟩ := tells
  -- Whatever waits has not been told as much.
  have not_waits : ∀ {inbound : Inbound Req} {m' : Metadata},
      ¬Waits false (said all) inbound m' := by
    intro inbound m' waits
    rw [told] at waits
    cases waits with
    | idle nothing idle => cases nothing
    | awaiting single headers awaiting => cases headers
    | holding single message holding => cases message
  cases stands with
  | waits fine never waits => exact absurd waits not_waits
  | cut gone never closed waits => exact absurd waits not_waits
  | rejected never closed deviates => exact absurd (told ▸ deviates) not_deviates_of_single
  | single single once past begun =>
    rw [told] at begun
    injection begun with headers more
    injection more with one rest
    injection headers with headers
    injection one with message flags
    exact ⟨message ▸ once, headers.symm⟩
  | stream stream once past told => cases stream

theorem Ledger.Stands.of_mem_starts {all : List (Arrival (RequestPart Req))} {l : Ledger Req}
    (stands : l.Stands false all) {request : Option Req} (begun : request ∈ l.starts) :
    ∃ m message, request = some message ∧ TellsRequest (said all) m message := by
  cases stands with
  | waits fine never waits => rw [never] at begun; cases begun
  | cut gone never closed waits => rw [never] at begun; cases begun
  | rejected never closed deviates => rw [never] at begun; cases begun
  | @single a flags rest single once past told =>
    rw [once] at begun
    exact ⟨l.headers, a, List.mem_singleton.mp begun, flags, rest, told⟩
  | stream stream once past told => cases stream

/-- A method that takes one request starts its handler once, with the request that it was told, or
rejects what deviates. -/
theorem Call.serves_single_request (single : method.shape.streamsRequests = false) (path : String)
    (shared : σ) {events : List (Event σ P Req Resp)}
    (orderly : Orderly method (fresh path shared) events) :
    (fresh path shared).ServesSingle method events := by
  have tracks := tracks_run path shared orderly
  have stands : ((fresh path shared).account method events).Stands false
      (arrivals ((fresh path shared).incidents method events)) := single ▸ tracks.stands
  constructor
  case once => exact length_starts_le_one path shared orderly
  case started =>
    intro request
    constructor
    · exact fun begun => stands.of_mem_starts begun
    · rintro ⟨m, message, rfl, tells⟩
      rw [show (fresh path shared).starts method events = _ from (stands.of_tellsRequest tells).1]
      exact List.mem_singleton_self _
  case headers => exact fun m message tells => (stands.of_tellsRequest tells).2
  case released =>
    rintro before after rfl
    exact starts_of_released path shared orderly
  case rejected =>
    intro reason deviates
    have split := rejects path shared orderly (single.symm ▸ deviates)
    rw [single] at split
    exact ⟨(stands.of_deviates deviates).1, split⟩
  case ignored =>
    intro reason deviates part p same
    have closed : p.call.inbound = .closed := same.trans (stands.of_deviates deviates).2
    exact Pass.onRequest_of_ignores (Pass.advance_of_over (Or.inr closed) part)

/-- A method that takes one text and returns one. -/
def saying : Method Unit String String String where
  shape := .unary
  requests := .verbatim
  responses := .verbatim

/-- Headers that come again do not matter, nor does what comes after the end. -/
theorem Call.serves_repeated_headers :
    let call : Call Unit String := fresh "/echo.Echo/Say" ()
    let first : Metadata := Metadata.empty.insert "x" "first"
    let received : List (RequestPart String) :=
      [.headers first, .headers .empty, .message "hello" {}, .finish, .message "again" {}]
    let events : List (Event Unit String String String) :=
      received.map .receive ++ [.finish (.ok ())] ++ [.release]
    saying.shape.streamsRequests = false ∧ Orderly saying call events ∧
    call.starts saying events = [some "hello"] ∧
    (call.run saying events).context.headers = first ∧ call.ServesSingle saying events := by
  intro call first received events
  have begun : call.starts saying (received.map .receive) = [some "hello"] := by
    decide +kernel
  have told : said (arrivals (call.incidents saying events)) =
      [.headers first, .message "hello" {}, .finish, .message "again" {}] := by
    decide +kernel
  have orderly : Orderly saying call events :=
    ((Orderly.of_received saying call received).concat (.finish (.ok ()))
      (fun _ => by rw [begun]; exact List.cons_ne_nil _ _) (by simp) (by simp)).concat .release
      nofun (by simp) (by simp)
  have serves := serves_single_request rfl "/echo.Echo/Say" () orderly
  have starts : call.starts saying events = [some "hello"] := by decide +kernel
  exact ⟨rfl, orderly, starts, serves.headers first "hello" ⟨{}, _, told⟩, serves⟩

end RemoteCall.Server
