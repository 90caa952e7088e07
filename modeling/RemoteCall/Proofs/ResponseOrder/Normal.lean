import RemoteCall.Proofs.Client.Direct
import RemoteCall.Proofs.Client.StreamOutcome
import RemoteCall.Proofs.Server.ReplySteps

/-!
# The normal form of a response

A fresh `ResponseOrder` brings any sequence of parts into a normal form: the headers the sequence
begins with, or empty ones if a message comes without any, the messages ahead of the first end,
and that end. The normal forms are exactly the well-formed responses, and these pass unchanged. So
a second filter behind the first finds nothing to do, and the filter of a client call lets through
whatever a served call hands over.
-/

namespace RemoteCall

namespace ResponsePart

variable {α : Type}

/-- Whether this part carries headers. -/
def isHeaders : ResponsePart α → Bool
  | headers _ => true
  | _ => false

/-- The messages ahead of the first end. -/
def messages (parts : List (ResponsePart α)) : List (ResponsePart α) :=
  (parts.takeWhile (!·.isFinish)).filter isMessage

/-- The first end. -/
def ending? (parts : List (ResponsePart α)) : Option (ResponsePart α) := parts.find? isFinish

/-- What is to stand ahead of the messages: the first of the headers that come ahead of every
message and end, or empty headers for messages that come without any. -/
def opening (parts : List (ResponsePart α)) : List (ResponsePart α) :=
  match (parts.takeWhile isHeaders).head? with
  | some first => [first]
  | none => if messages parts = [] then [] else [.headers .empty]

theorem isMessage_of_mem_messages {parts : List (ResponsePart α)} {part : ResponsePart α}
    (member : part ∈ messages parts) : part.isMessage = true :=
  (List.mem_filter.mp member).2

theorem isFinish_of_ending? {parts : List (ResponsePart α)} {part : ResponsePart α}
    (found : ending? parts = some part) : part.isFinish = true :=
  List.find?_some found

@[simp] theorem messages_headers (m : Metadata) (rest : List (ResponsePart α)) :
    messages (.headers m :: rest) = messages rest := rfl

@[simp] theorem messages_message (a : α) (flags : MessageFlags) (rest : List (ResponsePart α)) :
    messages (.message a flags :: rest) = .message a flags :: messages rest := rfl

@[simp] theorem messages_finish (status : Status) (trailers : Metadata)
    (rest : List (ResponsePart α)) : messages (.finish status trailers :: rest) = [] := rfl

@[simp] theorem ending?_headers (m : Metadata) (rest : List (ResponsePart α)) :
    ending? (.headers m :: rest) = ending? rest := rfl

@[simp] theorem ending?_message (a : α) (flags : MessageFlags) (rest : List (ResponsePart α)) :
    ending? (.message a flags :: rest) = ending? rest := rfl

@[simp] theorem ending?_finish (status : Status) (trailers : Metadata)
    (rest : List (ResponsePart α)) :
    ending? (.finish status trailers :: rest) = some (.finish status trailers) := rfl

theorem opening_headers (m : Metadata) (rest : List (ResponsePart α)) :
    opening (.headers m :: rest) = [.headers m] := rfl

theorem opening_message (a : α) (flags : MessageFlags) (rest : List (ResponsePart α)) :
    opening (.message a flags :: rest) = [.headers .empty] := by
  simp [opening, isHeaders]

theorem opening_finish (status : Status) (trailers : Metadata) (rest : List (ResponsePart α)) :
    opening (.finish status trailers :: rest) = [] := by
  simp [opening, isHeaders]

/-- Headers stand ahead of the messages, unless there are none. -/
theorem opening_cases (parts : List (ResponsePart α)) :
    (opening parts = [] ∧ messages parts = []) ∨ ∃ m, opening parts = [.headers m] := by
  cases parts with
  | nil => exact Or.inl ⟨rfl, rfl⟩
  | cons part rest =>
    cases part with
    | headers m => exact Or.inr ⟨m, opening_headers m rest⟩
    | message a flags => exact Or.inr ⟨.empty, opening_message a flags rest⟩
    | finish status trailers => exact Or.inl ⟨opening_finish status trailers rest, rfl⟩

/-- The parts of a normal form make a well-formed response. -/
theorem wellFormed_normal (parts : List (ResponsePart α)) :
    WellFormed (opening parts ++ messages parts ++ (ending? parts).toList) := by
  refine ⟨opening parts ++ messages parts, (ending? parts).toList, rfl, ?_, ?_⟩
  · rcases opening_cases parts with ⟨nothing, none⟩ | ⟨m, headers⟩
    · left
      rw [nothing, none]
      rfl
    · right
      refine ⟨m, messages parts, ?_, fun part => isMessage_of_mem_messages⟩
      rw [headers]
      rfl
  · cases found : ending? parts with
    | none => exact Or.inl rfl
    | some last =>
      have ends := isFinish_of_ending? found
      cases last with
      | headers m => cases ends
      | message a flags => cases ends
      | finish status trailers => exact Or.inr ⟨status, trailers, rfl⟩

/-- Messages and an end behind them are all there is to find. -/
theorem messages_of_body {body : List (ResponsePart α)}
    (all : ∀ part ∈ body, part.isMessage = true) {ending : List (ResponsePart α)}
    (last : ending = [] ∨ ∃ status trailers, ending = [.finish status trailers]) :
    messages (body ++ ending) = body ∧ (ending? (body ++ ending)).toList = ending := by
  induction body with
  | nil =>
    rcases last with rfl | ⟨status, trailers, rfl⟩
    · exact ⟨rfl, rfl⟩
    · exact ⟨rfl, rfl⟩
  | cons part rest ih =>
    have later := ih fun part member => all part (List.mem_cons_of_mem _ member)
    have first := all part List.mem_cons_self
    cases part with
    | headers m => cases first
    | finish status trailers => cases first
    | message a flags =>
      rw [List.cons_append, messages_message, ending?_message, later.1]
      exact ⟨rfl, later.2⟩

end ResponsePart

namespace ResponseOrder

open ResponsePart (messages ending? opening WellFormed)

variable {α β ε : Type}

/-- Behind the headers the messages pass up to the first end, and that end. -/
theorem allowAll_streaming (parts : List (ResponsePart α)) :
    streaming.allowAll parts = messages parts ++ (ending? parts).toList := by
  induction parts with
  | nil => rfl
  | cons part rest ih =>
    cases part with
    | headers m =>
      show [] ++ streaming.allowAll rest = _
      rw [ih]
      rfl
    | message a flags =>
      show [.message a flags] ++ streaming.allowAll rest = _
      rw [ih]
      rfl
    | finish status trailers =>
      show [.finish status trailers] ++ ended.allowAll rest = _
      rw [allowAll_ended]
      rfl

/-- A fresh filter brings any parts into their normal form. -/
theorem allowAll_fresh (parts : List (ResponsePart α)) :
    fresh.allowAll parts = opening parts ++ messages parts ++ (ending? parts).toList := by
  cases parts with
  | nil => rfl
  | cons part rest =>
    cases part with
    | headers m =>
      show [.headers m] ++ streaming.allowAll rest = _
      rw [allowAll_streaming, ResponsePart.opening_headers, List.append_assoc]
      rfl
    | message a flags =>
      show [.headers .empty, .message a flags] ++ streaming.allowAll rest = _
      rw [allowAll_streaming, ResponsePart.opening_message, List.append_assoc]
      rfl
    | finish status trailers =>
      show [.finish status trailers] ++ ended.allowAll rest = _
      rw [allowAll_ended, ResponsePart.opening_finish]
      rfl

theorem wellFormed_allowAll (parts : List (ResponsePart α)) :
    WellFormed (fresh.allowAll parts) := by
  rw [allowAll_fresh]
  exact ResponsePart.wellFormed_normal parts

/-- A well-formed response passes unchanged. -/
theorem allowAll_of_wellFormed {parts : List (ResponsePart α)} (formed : WellFormed parts) :
    fresh.allowAll parts = parts := by
  obtain ⟨body, ending, rfl, begins, last⟩ := formed
  rcases begins with rfl | ⟨m, rest, rfl, all⟩
  · rcases last with rfl | ⟨status, trailers, rfl⟩
    · rfl
    · rfl
  · obtain ⟨kept, ends⟩ := ResponsePart.messages_of_body all last
    show [.headers m] ++ streaming.allowAll (rest ++ ending) = _
    rw [allowAll_streaming, kept, ends]
    rfl

theorem wellFormed_iff_allowAll (parts : List (ResponsePart α)) :
    WellFormed parts ↔ fresh.allowAll parts = parts := by
  refine ⟨allowAll_of_wellFormed, fun unchanged => ?_⟩
  rw [← unchanged]
  exact wellFormed_allowAll parts

/-- What the filter lets out behind the headers are never headers. -/
theorem not_headers_of_streaming {parts : List (ResponsePart α)} {m : Metadata} :
    .headers m ∉ streaming.allowAll parts := by
  intro member
  rw [allowAll_streaming, List.mem_append] at member
  rcases member with member | member
  · cases ResponsePart.isMessage_of_mem_messages member
  · cases ResponsePart.isFinish_of_ending? (Option.mem_toList.mp member)

/-- If a sequence passes unchanged, each of its parts passes alone as it is. -/
theorem allow_of_allowAll_eq {order : ResponseOrder} {part : ResponsePart α}
    {rest : List (ResponsePart α)} (unchanged : order.allowAll (part :: rest) = part :: rest) :
    (order.allow part).1 = [part] ∧ (order.allow part).2.allowAll rest = rest := by
  have single : ∀ next : ResponseOrder, [part] ++ next.allowAll rest = part :: rest →
      next.allowAll rest = rest := fun next same => (List.cons.inj same).2
  rw [allowAll] at unchanged
  cases order with
  | ended =>
    rw [allow_ended, allowAll_ended] at unchanged
    cases unchanged
  | fresh =>
    cases part with
    | headers m => exact ⟨rfl, single streaming unchanged⟩
    | message a flags => cases unchanged
    | finish status trailers => exact ⟨rfl, single ended unchanged⟩
  | streaming =>
    cases part with
    | headers m =>
      have member : .headers m ∈ streaming.allowAll rest := by
        have same : streaming.allowAll rest = .headers m :: rest := unchanged
        rw [same]
        exact List.mem_cons_self
      exact absurd member not_headers_of_streaming
    | message a flags => exact ⟨rfl, single streaming unchanged⟩
    | finish status trailers => exact ⟨rfl, single ended unchanged⟩

/-- What comes first of a sequence that passes unchanged does so too. -/
theorem allowAll_of_prefix {order : ResponseOrder} {first parts : List (ResponsePart α)}
    (leads : first <+: parts) (unchanged : order.allowAll parts = parts) :
    order.allowAll first = first := by
  obtain ⟨later, rfl⟩ := leads
  induction first generalizing order with
  | nil => rfl
  | cons part rest ih =>
    obtain ⟨passes, behind⟩ := allow_of_allowAll_eq unchanged
    rw [allowAll, passes, ih behind]
    rfl

/-- Messages that go missing in a conversion do not change that. -/
theorem allowAll_filterMap {order : ResponseOrder} {parts : List (ResponsePart α)}
    (unchanged : order.allowAll parts = parts) (convert : α → Except ε β) :
    let converted := parts.filterMap fun part => (part.tryMap convert).toOption
    order.allowAll converted = converted := by
  intro converted
  induction parts generalizing order with
  | nil => rfl
  | cons part rest ih =>
    obtain ⟨passes, behind⟩ := allow_of_allowAll_eq unchanged
    have later := ih behind
    cases order with
    | ended =>
      rw [allow_ended] at passes
      cases passes
    | fresh =>
      cases part with
      | headers m => exact congrArg ([ResponsePart.headers m] ++ ·) later
      | message a flags => cases passes
      | finish status trailers => exact congrArg ([ResponsePart.finish status trailers] ++ ·) later
    | streaming =>
      cases part with
      | headers m => cases passes
      | finish status trailers => exact congrArg ([ResponsePart.finish status trailers] ++ ·) later
      | message a flags =>
        cases result : convert a with
        | ok value =>
          have kept : converted = [.message value flags] ++ rest.filterMap
              (fun part => (part.tryMap convert).toOption) :=
            List.filterMap_cons_some (by simp only [ResponsePart.tryMap, result]; rfl)
          rw [kept]
          exact congrArg ([ResponsePart.message value flags] ++ ·) later
        | error e =>
          have missing : converted = rest.filterMap
              (fun part => (part.tryMap convert).toOption) :=
            List.filterMap_cons_none (by simp only [ResponsePart.tryMap, result]; rfl)
          rw [missing]
          exact later

/-- Where all parts pass unchanged, nothing is lost or added among failures either. -/
theorem sift_of_allowAll_eq {order : ResponseOrder} {arrivals : List (Arrival (ResponsePart α))}
    (unchanged : order.allowAll (arrivals.filterMap Arrival.part?) =
      arrivals.filterMap Arrival.part?) : order.sift arrivals = arrivals := by
  induction arrivals generalizing order with
  | nil => rfl
  | cons arrival rest ih =>
    cases arrival with
    | failure e => exact congrArg (.failure e :: ·) (ih unchanged)
    | part part =>
      obtain ⟨passes, behind⟩ := allow_of_allowAll_eq unchanged
      rw [sift, passes, ih behind]
      rfl

end ResponseOrder

namespace Client

variable {σ P Req Resp : Type} {setup : Setup σ P Req Resp}

/-- The part that the transport delivers. -/
def Move.delivered? : Move P Req → Option (ResponsePart P)
  | .event (.part part) => some part
  | _ => none

namespace Call

theorem parts_terminateArrivals (plain : setup.chain = .empty) (e : CallError)
    (call : Call σ Resp) : (call.terminateArrivals setup e).filterMap Arrival.part? = [] := by
  unfold terminateArrivals Pass.chainArrivals
  rw [plain]
  split <;> rfl

/-- Without interceptors a move brings in what the transport delivers and can be decoded. -/
theorem parts_moveArrivals (plain : setup.chain = .empty) (move : Move P Req)
    (call : Call σ Resp) :
    (call.moveArrivals setup move).filterMap Arrival.part? =
      move.delivered?.toList.filterMap fun part =>
        (part.tryMap setup.responses.decode).toOption := by
  cases move with
  | pull => rfl
  | next => rfl
  | event event =>
    simp only [moveArrivals, Move.delivered?]
    cases event with
    | send parts =>
      simp only [Event.arrivals, Pass.enqueueArrivals_direct plain]
      rfl
    | cancel => exact parts_terminateArrivals plain .cancelled call
    | expire =>
      simp only [Event.arrivals]
      cases call.status? with
      | some status => rfl
      | none => exact parts_terminateArrivals plain .deadlineExceeded call
    | error e =>
      simp only [Event.arrivals, Pass.chainArrivals, plain]
      rfl
    | part part =>
      simp only [Event.arrivals, Pass.chainArrivals, plain, Option.toList_some,
        List.filterMap_cons, List.filterMap_nil]
      cases part.tryMap setup.responses.decode with
      | ok value => rfl
      | error e => rfl

/-- The parts that leave the chain are those the transport delivers, as far as they can be
decoded. -/
def Unaltered (setup : Setup σ P Req Resp) (moves : List (Move P Req)) (call : Call σ Resp) :
    Prop :=
  call.departures setup moves = (moves.filterMap Move.delivered?).filterMap fun part =>
    (part.tryMap setup.responses.decode).toOption

/-- That is so of every run without interceptors. -/
theorem unaltered_direct (plain : setup.chain = .empty) (moves : List (Move P Req))
    (call : Call σ Resp) : call.Unaltered setup moves := by
  unfold Unaltered
  induction moves generalizing call with
  | nil => rfl
  | cons move rest ih =>
    rw [departures_cons, parts_moveArrivals plain, ih, ← List.filterMap_append]
    cases found : move.delivered? with
    | none => rw [List.filterMap_cons_none found]; rfl
    | some part => rw [List.filterMap_cons_some found]; rfl

/-- A fresh filter that is handed what is delivered of a well-formed response lets everything
through as it is. -/
theorem Unaltered.admitted {moves : List (Move P Req)} {call : Call σ Resp}
    (unaltered : call.Unaltered setup moves) (unused : call.order = .fresh)
    {parts : List (ResponsePart P)} (formed : ResponsePart.WellFormed parts)
    (delivered : moves.filterMap Move.delivered? <+: parts) :
    call.admitted setup moves = call.arrivals setup moves := by
  have whole : ResponseOrder.fresh.allowAll parts = parts :=
    ResponseOrder.allowAll_of_wellFormed formed
  have received : ResponseOrder.fresh.allowAll (moves.filterMap Move.delivered?) =
      moves.filterMap Move.delivered? := ResponseOrder.allowAll_of_prefix delivered whole
  have decoded : ResponseOrder.fresh.allowAll (call.departures setup moves) =
      call.departures setup moves := by
    rw [unaltered]
    exact ResponseOrder.allowAll_filterMap received setup.responses.decode
  unfold Call.admitted
  rw [unused]
  exact ResponseOrder.sift_of_allowAll_eq decoded

end Call

end Client

namespace Server

open ResponseOrder (Passed)

variable {σ P Req Resp S : Type}

/-- What a served call hands over has passed its filter. -/
theorem Serving.passed_outputs (method : Method σ P Req Resp) (handler : Handler σ Req Resp S)
    (compression : Bool) (path : String) (shared : σ) (moves : List (Move σ P Req Resp)) :
    ∃ order, Passed ((fresh method handler compression path shared).outputs moves) order := by
  obtain ⟨events, -, parts⟩ :=
    (follows_run (.fresh method handler compression path shared) moves).call
  have unused : Passed ([] : List (ResponsePart P)) (Call.fresh path shared : Call σ Req).order :=
    .nothing
  have passed := Call.passed_run method events unused
  rw [List.nil_append] at passed
  exact ⟨_, parts ▸ passed⟩

end Server

namespace ResponseOrder

open ResponsePart (messages ending? opening WellFormed)

variable {σ τ P Req Resp Req' Resp' S α : Type}

/-- A fresh filter brings any parts into normal form: the headers they begin with, or empty ones
if a message comes without any, the messages ahead of the first end, and that end. Well-formed
responses, and only these, pass unchanged, so a second filter changes nothing. In particular the
filter of a client call lets through as it is whatever a served call hands over, the transport
delivers in order and the interceptors of the client leave alone. -/
theorem normalizes (method : Server.Method σ P Req Resp) (handler : Server.Handler σ Req Resp S)
    (compression : Bool) (path : String) (shared : σ)
    (served : List (Server.Move σ P Req Resp)) (setup : Client.Setup τ P Req' Resp')
    (call : Client.Call τ Resp') (unused : call.order = .fresh)
    (moves : List (Client.Move P Req')) (unaltered : call.Unaltered setup moves)
    (delivered : moves.filterMap Client.Move.delivered? <+:
      (Server.Serving.fresh method handler compression path shared).outputs served)
    (parts : List (ResponsePart α)) :
    let passed := fresh.allowAll parts
    passed = opening parts ++ messages parts ++ (ending? parts).toList ∧
    WellFormed passed ∧
    (WellFormed parts ↔ passed = parts) ∧
    fresh.allowAll passed = passed ∧
    call.admitted setup moves = call.arrivals setup moves := by
  intro passed
  have formed : WellFormed passed := wellFormed_allowAll parts
  have again : fresh.allowAll passed = passed := allowAll_of_wellFormed formed
  obtain ⟨_, handed⟩ :=
    Server.Serving.passed_outputs method handler compression path shared served
  exact ⟨allowAll_fresh parts, formed, wellFormed_iff_allowAll parts, again,
    unaltered.admitted unused handed.wellFormed delivered⟩

/-- Headers that come behind a message make way for empty ones ahead of it, and a message behind
the end is dropped. The response of a served call is taken as it is. -/
theorem normalizes_message_without_headers :
    let parts : List (ResponsePart String) :=
      [.message "one" {}, .headers (.ofList [("x-late", "2")]), .finish .success .empty,
        .message "two" {}]
    let moves : List (Client.Move String String) :=
      (Server.Stager.served.outputs Server.Stager.moves).map fun part => .event (.part part)
    let call := Client.Call.begin Client.listing () (.ok ()) (some "go")
    fresh.allowAll parts = [.headers .empty, .message "one" {}, .finish .success .empty] ∧
      ¬ WellFormed parts ∧
      call.admitted Client.listing moves =
        [.part (.headers (.ofList [("x-early", "1")])),
          .part (.message "one" (.compressed false)),
          .part (.finish .success (.ofList [("x-end", "3")]))] := by
  intro parts moves call
  have delivered : moves.filterMap Client.Move.delivered? =
      Server.Stager.served.outputs Server.Stager.moves := rfl
  obtain ⟨normal, -, unchanged, -, admits⟩ :=
    normalizes Server.Stager.method Server.Stager.handler false "/echo.Echo/List" ()
      Server.Stager.moves Client.listing call rfl moves
      (Client.Call.unaltered_direct rfl moves call) (delivered ▸ List.prefix_refl _) parts
  have passed : fresh.allowAll parts =
      [.headers .empty, .message "one" {}, .finish .success .empty] := normal
  refine ⟨passed, fun formed => ?_, admits⟩
  have same := unchanged.mp formed
  rw [passed] at same
  simp [parts] at same

end ResponseOrder

end RemoteCall
