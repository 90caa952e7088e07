import RemoteCall.Proofs.Client.Event

/-!
# The history of a response

Behind the chain and the order filter an accumulator takes parts and failures one by one. What it
has taken in a run is the `Call.history` of the response: the accumulator of a call is what its
history makes of a fresh one, but for the polls of a response stream. The first end or failure in
a history is its `ending`; the messages before that are its `messages`, and its `headers` are the
first of those before it.
-/

namespace RemoteCall

namespace ResponseOrder

variable {α : Type}

/-- What passes the filter of what leaves a chain. Failures always do. -/
def sift : ResponseOrder → List (Arrival (ResponsePart α)) → List (Arrival (ResponsePart α))
  | _, [] => []
  | order, .part part :: rest =>
    (order.allow part).1.map .part ++ (order.allow part).2.sift rest
  | order, .failure e :: rest => .failure e :: order.sift rest

theorem sift_append (order : ResponseOrder) (first second : List (Arrival (ResponsePart α))) :
    order.sift (first ++ second) =
      order.sift first ++ (order.after (first.filterMap Arrival.part?)).sift second := by
  induction first generalizing order with
  | nil => rfl
  | cons arrival rest ih =>
    cases arrival with
    | part part =>
      have later := ih (order.allow part).2
      simp only [List.cons_append, sift, later, List.append_assoc]
      rfl
    | failure e =>
      have later := ih order
      simp only [List.cons_append, sift, later]
      rfl

end ResponseOrder

namespace Arrival

open Client (Ending)

variable {Resp : Type}

def ending? : Arrival (ResponsePart Resp) → Option Ending
  | .part (.finish status trailers) => some (.finish status trailers)
  | .failure e => some (.failure e)
  | _ => none

def message? : Arrival (ResponsePart Resp) → Option Resp
  | .part (.message m _) => some m
  | _ => none

def headers? : Arrival (ResponsePart Resp) → Option Metadata
  | .part (.headers m) => some m
  | _ => none

end Arrival

namespace Client

variable {σ P Req Resp : Type}

/-- What an accumulator takes in order. -/
abbrev History (Resp : Type) := List (Arrival (ResponsePart Resp))

namespace History

/-- The first end or failure. -/
def ending? (history : History Resp) : Option Ending := history.findSome? Arrival.ending?

/-- What comes before the first end or failure. -/
def body (history : History Resp) : History Resp :=
  history.takeWhile fun arrival => arrival.ending?.isNone

/-- The messages before the first end or failure. -/
def messages (history : History Resp) : List Resp := history.body.filterMap Arrival.message?

/-- The first headers before the first end or failure. -/
def headers? (history : History Resp) : Option Metadata := history.body.findSome? Arrival.headers?

variable {history : History Resp}

theorem body_of_open (still : history.ending? = none) : history.body = history := by
  have all : ∀ arrival ∈ history, arrival.ending?.isNone = true := by
    intro arrival member
    have none : arrival.ending? = none := List.findSome?_eq_none_iff.mp still arrival member
    simp [none]
  have whole : (history ++ []).takeWhile (fun arrival => arrival.ending?.isNone) =
      history ++ [] := List.takeWhile_append_of_pos all
  simpa [body] using whole

theorem messages_of_open (still : history.ending? = none) :
    history.messages = history.filterMap Arrival.message? := by
  rw [messages, body_of_open still]

theorem ending?_append (history later : History Resp) :
    ending? (history ++ later) = history.ending?.or later.ending? :=
  List.findSome?_append

theorem open_of_append {later : History Resp} (still : ending? (history ++ later) = none) :
    history.ending? = none := by
  rw [ending?_append, Option.or_eq_none_iff] at still
  exact still.1

/-- While there is no end, the next arrival counts. -/
theorem append_of_open (still : history.ending? = none) (arrival : Arrival (ResponsePart Resp)) :
    ending? (history ++ [arrival]) = arrival.ending? ∧
      messages (history ++ [arrival]) = history.messages ++ arrival.message?.toList ∧
      headers? (history ++ [arrival]) = history.headers?.or arrival.headers? := by
  have all : ∀ earlier ∈ history, earlier.ending?.isNone = true := by
    intro earlier member
    have none : earlier.ending? = none := List.findSome?_eq_none_iff.mp still earlier member
    simp [none]
  have grown : body (history ++ [arrival]) =
      history ++ List.takeWhile (fun arrival => arrival.ending?.isNone) [arrival] :=
    List.takeWhile_append_of_pos all
  have open_ := body_of_open still
  refine ⟨?_, ?_, ?_⟩
  · rw [ending?_append, still, Option.none_or]
    cases h : arrival.ending? <;> simp [ending?, h]
  · unfold messages
    rw [grown, open_, List.filterMap_append]
    cases arrival with
    | failure e => rfl
    | part part => cases part <;> rfl
  · unfold headers?
    rw [grown, open_, List.findSome?_append]
    cases arrival with
    | failure e => rfl
    | part part => cases part <;> rfl

/-- Behind the end nothing counts. -/
theorem append_of_ended {ending : Ending} (ended : history.ending? = some ending)
    (later : History Resp) :
    ending? (history ++ later) = some ending ∧ body (history ++ later) = history.body := by
  have found : history.findSome? Arrival.ending? = some ending := ended
  refine ⟨?_, ?_⟩
  · rw [ending?_append, ended]
    rfl
  · obtain ⟨before, arrival, behind, rfl, ends, quiet⟩ := List.findSome?_eq_some_iff.mp found
    have all : ∀ earlier ∈ before, earlier.ending?.isNone = true := by
      intro earlier member
      simp [quiet earlier member]
    have stops : ∀ behind : History Resp,
        List.takeWhile (fun arrival => arrival.ending?.isNone) (arrival :: behind) = [] := by
      intro behind
      simp [ends]
    unfold body
    rw [List.append_assoc, List.cons_append, List.takeWhile_append_of_pos all,
      List.takeWhile_append_of_pos all, stops, stops]

end History

namespace Accumulator

def take (a : Accumulator Resp) : Arrival (ResponsePart Resp) → Accumulator Resp
  | .part part => (a.accept part).1
  | .failure e => a.fail e

def takeAll (a : Accumulator Resp) (history : History Resp) : Accumulator Resp :=
  history.foldl take a

@[simp] theorem takeAll_nil (a : Accumulator Resp) : a.takeAll [] = a := rfl

@[simp] theorem takeAll_cons (a : Accumulator Resp) (arrival : Arrival (ResponsePart Resp))
    (rest : History Resp) : a.takeAll (arrival :: rest) = (a.take arrival).takeAll rest := rfl

theorem takeAll_append (a : Accumulator Resp) (first second : History Resp) :
    a.takeAll (first ++ second) = (a.takeAll first).takeAll second := by
  unfold takeAll
  rw [List.foldl_append]

theorem acceptAll_eq_takeAll (a : Accumulator Resp) (parts : List (ResponsePart Resp)) :
    a.acceptAll parts = a.takeAll (parts.map .part) := by
  unfold acceptAll takeAll
  rw [List.foldl_map]
  rfl

/-- A response that is no stream never becomes one. -/
theorem stream?_takeAll {a : Accumulator Resp} (single : a.response.stream? = none)
    (history : History Resp) : (a.takeAll history).response.stream? = none := by
  induction history generalizing a with
  | nil => exact single
  | cons arrival rest ih =>
    have kind : (a.take arrival).response.stream?.isSome = a.response.stream?.isSome := by
      cases arrival with
      | part part => exact stream?_isSome_accept a part
      | failure e => exact stream?_isSome_fail a e
    have still : (a.take arrival).response.stream? = none := by
      rw [single] at kind
      exact Option.isNone_iff_eq_none.mp (Option.isSome_eq_false_iff.mp kind)
    rw [takeAll_cons]
    exact ih still

end Accumulator

/-- An intake takes what its filter admits. -/
theorem Intake.takeAll_eq (i : Intake Resp) (arrivals : List (Arrival (ResponsePart Resp))) :
    i.takeAll arrivals =
      { order := i.order.after (arrivals.filterMap Arrival.part?)
        accumulator := i.accumulator.takeAll (i.order.sift arrivals) } := by
  induction arrivals generalizing i with
  | nil => rfl
  | cons arrival rest ih =>
    rw [takeAll_cons, ih]
    cases arrival with
    | failure e => rfl
    | part part =>
      have accepted := Accumulator.acceptAll_eq_takeAll i.accumulator (i.order.allow part).1
      simp only [take, ResponseOrder.sift, Accumulator.takeAll_append, accepted]
      rfl

namespace Call

/-- What the accumulator takes in a run. -/
def admitted (setup : Setup σ P Req Resp) (moves : List (Move P Req)) (call : Call σ Resp) :
    History Resp :=
  call.order.sift (call.arrivals setup moves)

/-- What the accumulator has taken since the call was started. -/
def history (setup : Setup σ P Req Resp) (shared : σ) (invocation : Result Unit)
    (request : Option Req) (moves : List (Move P Req)) : History Resp :=
  ResponseOrder.fresh.sift ((fresh setup.shape shared).startArrivals setup invocation request) ++
    (begin setup shared invocation request).admitted setup moves

theorem intake_event (setup : Setup σ P Req Resp) (event : Event P Req) (call : Call σ Resp) :
    (call.move setup (.event event)).intake =
      { order := call.order.after ((event.arrivals setup call).filterMap Arrival.part?)
        accumulator :=
          call.accumulator.takeAll (call.order.sift (event.arrivals setup call)) } := by
  show (event.pass setup call).call.intake = _
  rw [Event.intake_pass, Intake.takeAll_eq]
  rfl

theorem order_move (setup : Setup σ P Req Resp) (move : Move P Req) (call : Call σ Resp) :
    (call.move setup move).order =
      call.order.after ((call.moveArrivals setup move).filterMap Arrival.part?) := by
  cases move with
  | event event => exact congrArg Intake.order (intake_event setup event call)
  | pull =>
    show call.pull.2.order = call.order
    rw [pull_snd]
    rfl
  | next =>
    show call.next.2.order = call.order
    rw [next_snd]
    rfl

theorem admitted_cons (setup : Setup σ P Req Resp) (move : Move P Req) (rest : List (Move P Req))
    (call : Call σ Resp) :
    call.admitted setup (move :: rest) =
      call.order.sift (call.moveArrivals setup move) ++
        (call.move setup move).admitted setup rest := by
  unfold admitted
  rw [arrivals, ResponseOrder.sift_append, order_move]

theorem accumulator_begin (setup : Setup σ P Req Resp) (shared : σ) (invocation : Result Unit)
    (request : Option Req) :
    (begin setup shared invocation request).accumulator =
      (fresh setup.shape shared : Call σ Resp).accumulator.takeAll
        (ResponseOrder.fresh.sift
          ((fresh setup.shape shared).startArrivals setup invocation request)) := by
  have started := intake_start setup invocation request (fresh setup.shape shared)
  rw [Intake.takeAll_eq] at started
  exact congrArg Intake.accumulator started

end Call

end Client

end RemoteCall
