import RemoteCall.Link
import RemoteCall.Server.Routing

/-!
# A link between its ends

A `Line` is a link with those who use it: the client, who may let go of the call, and the pumps,
each with what it has taken and not accepted yet. The client's operations, what the server's side
sends and the steps of the pumps are `Line.Act`s, which come in any order; in particular anything
may happen between the taking of a part and its acceptance. What can be seen of them at the ends
of the link are `Line.Sight`s.

What the client sends enters the queue as long as the link is open, and so does the cancellation
that closes it. All of that, and nothing else, is handed to the server in this order; the client
is shown what the server has said, up to the first end (`Line.lossless`).
-/

namespace RemoteCall

/-- A link with those who use it. -/
structure Line (P : Type) where
  link : Link P := {}
  /-- The path has a handler. -/
  routed : Bool
  /-- The client holds on to the call. -/
  held : Bool := true
  /-- What the serving pump has taken and not accepted. -/
  serving : Option (ToServer P) := none
  /-- What the delivering pump has taken and not accepted. -/
  delivering : Option (ResponsePart P × Nat) := none

/-- The number of a part. -/
def ToServer.ticket? {P : Type} : ToServer P → Option Nat
  | part _ ticket => some ticket
  | cancel _ => none

namespace Line

/-- What is done to a line. -/
inductive Act (P : Type) where
  | invoke
  | send (part : RequestPart P)
  | cancel
  /-- The client lets go of the call. -/
  | drop
  | respond (part : ResponsePart P)
  /-- The server's side lets go of the link. -/
  | leave
  /-- The serving pump goes on: it looks the path up, takes what is next, or stops. -/
  | serve
  /-- What the serving pump has taken is accepted. -/
  | served
  | deliver
  | delivered

/-- What is seen at the ends of a line. Parts and cancellations of the client have the numbers of
their acceptances. -/
inductive Sight (P : Type) where
  | invoked
  | sent (part : RequestPart P) (ticket : Nat)
  | cancelled (ticket : Nat)
  /-- The handler of the path is given this: a part, or the news that the client has cancelled. -/
  | handed (item : ToServer P)
  /-- There is no handler to give this to. -/
  | discarded (item : ToServer P)
  | said (part : ResponsePart P)
  | shown (part : ResponsePart P)
  /-- The client has taken the end. -/
  | ended
  /-- The client is told that there will be no end. -/
  | failed

variable {P : Type}

def fresh (routed : Bool) : Line P := { routed }

/-- The link closes once neither the client nor the delivering pump holds on to it. -/
def letGo (l : Line P) : Line P :=
  if l.held || l.link.delivering == .running then l
  else { l with link := { l.link with isOpen := false } }

/-- The serving pump takes this. -/
def take (l : Line P) (item : ToServer P) (link : Link P) : Line P × List (Sight P) :=
  ({ l with link, serving := some item }, [if l.routed then .handed item else .discarded item])

/-- One step of the serving pump. -/
def serve (l : Line P) : Line P × List (Sight P) :=
  match l.serving, l.link.serve? with
  | none, some (.dispatch, link) =>
    if l.routed then ({ l with link }, [])
    else
      ({ l with link := (link.respond (Server.notFound P)).dropServer },
        [.said (Server.notFound P)])
  | none, some (.part part ticket, link) => l.take (.part part ticket) link
  | none, some (.cancel ticket, link) => l.take (.cancel ticket) link
  | none, some (.release, link) => ({ l with link }, [])
  | _, _ => (l, [])

/-- What the serving pump has taken is accepted. -/
def served (l : Line P) : Line P :=
  match l.serving with
  | some (.part _ ticket) => { l with link := l.link.acceptRequest ticket, serving := none }
  | some (.cancel ticket) => { l with link := l.link.acceptCancel ticket, serving := none }
  | none => l

/-- One step of the delivering pump. -/
def deliver (l : Line P) : Line P × List (Sight P) :=
  match l.delivering, l.link.deliver? with
  | none, some (.part part ticket, link) =>
    ({ l with link, delivering := some (part, ticket) }, [.shown part])
  | none, some (.error, link) => ({ l with link }.letGo, [.failed])
  | _, _ => (l, [])

/-- What the delivering pump has taken is accepted. -/
def delivered (l : Line P) : Line P × List (Sight P) :=
  match l.delivering with
  | some (part, ticket) =>
    ({ l with link := l.link.acceptResponse part ticket, delivering := none },
      if part.isFinish then [.ended] else [])
  | none => (l, [])

/-- A line after an act, and what is seen of it. An act that is not possible changes nothing. -/
def perform (l : Line P) : Act P → Line P × List (Sight P)
  | .invoke =>
    if l.held && !l.link.invoked then ({ l with link := l.link.invoke.2 }, [.invoked]) else (l, [])
  | .send part =>
    if l.held then
      ({ l with link := l.link.send part }, [.sent part l.link.requestSignals.length])
    else (l, [])
  | .cancel =>
    if l.held then
      ({ l with link := l.link.cancel }, [.cancelled l.link.cancelSignals.length])
    else (l, [])
  | .drop => ({ l with held := false }.letGo, [])
  | .respond part => ({ l with link := l.link.respond part }, [.said part])
  | .leave => ({ l with link := l.link.dropServer }, [])
  | .serve => l.serve
  | .served => (l.served, [])
  | .deliver => l.deliver
  | .delivered => l.delivered

def run (l : Line P) (acts : List (Act P)) : Line P :=
  acts.foldl (fun l act => (l.perform act).1) l

/-- What is seen of acts, in order. -/
def trace : List (Act P) → Line P → List (Sight P)
  | [], _ => []
  | act :: rest, l => (l.perform act).2 ++ trace rest (l.perform act).1

theorem run_append (l : Line P) (first second : List (Act P)) :
    l.run (first ++ second) = (l.run first).run second := by
  unfold run
  rw [List.foldl_append]

theorem trace_append (l : Line P) (first second : List (Act P)) :
    l.trace (first ++ second) = l.trace first ++ (l.run first).trace second := by
  induction first generalizing l with
  | nil => rfl
  | cons act rest ih =>
    rw [List.cons_append, trace, trace, ih, List.append_assoc]
    rfl

/-! ### What a trace tells -/

/-- Whether the link is open, as far as the client and the end of the response decide. -/
inductive Phase where
  | fresh
  | opened
  | closed
  deriving DecidableEq

def Phase.next : Phase → Sight P → Phase
  | fresh, .invoked => opened
  | opened, .cancelled _ => closed
  | opened, .ended => closed
  | phase, _ => phase

/-- What enters the queue at this sight. -/
def Phase.entry? : Phase → Sight P → Option (ToServer P)
  | opened, .sent part ticket => some (.part part ticket)
  | opened, .cancelled ticket => some (.cancel ticket)
  | _, _ => none

/-- The part that is rejected at this sight, by its number, and why. -/
def Phase.refusal? : Phase → Sight P → Option (Nat × CallError)
  | fresh, .sent _ ticket => some (ticket, .transport "call was not invoked")
  | closed, .sent _ ticket => some (ticket, .transport "call is closed")
  | _, _ => none

def phase (trace : List (Sight P)) : Phase := trace.foldl Phase.next .fresh

/-- What is read off each sight in its phase. -/
def along {β : Type} (read? : Phase → Sight P → Option β) : Phase → List (Sight P) → List β
  | _, [] => []
  | phase, sight :: rest => (read? phase sight).toList ++ along read? (phase.next sight) rest

/-- What enters the queue to the server. -/
def entered (trace : List (Sight P)) : List (ToServer P) := along Phase.entry? .fresh trace

/-- The numbers of the parts that are sent before the invocation or to a closed link. -/
def refused (trace : List (Sight P)) : List (Nat × CallError) := along Phase.refusal? .fresh trace

def Sight.handed? : Sight P → Option (ToServer P)
  | handed item => some item
  | _ => none

def Sight.taken? : Sight P → Option (ToServer P)
  | handed item => some item
  | discarded item => some item
  | _ => none

def Sight.said? : Sight P → Option (ResponsePart P)
  | said part => some part
  | _ => none

def Sight.shown? : Sight P → Option (ResponsePart P)
  | shown part => some part
  | _ => none

def Sight.isHeard : Sight P → Bool
  | shown _ => true
  | failed => true
  | _ => false

/-- Whether a sight is not about the way to the server. -/
def Sight.isBack : Sight P → Bool
  | said _ => true
  | shown _ => true
  | failed => true
  | _ => false

/-- What the handler of the path is given. -/
def handed (trace : List (Sight P)) : List (ToServer P) := trace.filterMap Sight.handed?

/-- What the serving pump takes. -/
def taken (trace : List (Sight P)) : List (ToServer P) := trace.filterMap Sight.taken?

/-- What the server's side says. -/
def said (trace : List (Sight P)) : List (ResponsePart P) := trace.filterMap Sight.said?

/-- What the client is shown. -/
def shown (trace : List (Sight P)) : List (ResponsePart P) := trace.filterMap Sight.shown?

/-- What the client is told: what it is shown, and that there will be no end. -/
def heard (trace : List (Sight P)) : List (Sight P) := trace.filter Sight.isHeard

/-- The serving pump can do nothing. -/
def ServingRests (l : Line P) : Prop := l.serving = none ∧ l.link.serve? = none

/-- The delivering pump can do nothing. -/
def DeliveringRests (l : Line P) : Prop := l.delivering = none ∧ l.link.deliver? = none

/-- What a line carries, as seen in a trace that has led to it. -/
structure Carries (trace : List (Sight P)) (l : Line P) : Prop where
  /-- Parts enter the queue, and behind them a cancellation at most. -/
  entered : ∃ (parts : List (RequestPart P × Nat)) (cancel? : Option Nat), entered trace =
    parts.map (fun entry => .part entry.1 entry.2) ++ cancel?.toList.map .cancel
  tickets : ((Line.entered trace).filterMap ToServer.ticket?).Pairwise (· < ·)
  /-- The serving pump takes what has entered, in order and each once. -/
  fifo : taken trace <+: Line.entered trace
  /-- It leaves nothing behind. -/
  drained : l.ServingRests → taken trace = Line.entered trace
  handed : handed trace = if l.routed then taken trace else []
  accepted : ∀ ticket, l.link.requestSignals[ticket]? = some (.settled (.ok ())) →
    ∃ part, .part part ticket ∈ taken trace
  /-- What is sent at another time is rejected and never taken. -/
  refused : ∀ ticket e, (ticket, e) ∈ refused trace →
    l.link.requestSignals[ticket]? = some (.settled (.error e)) ∧
      ∀ part, .part part ticket ∉ taken trace
  /-- The client is shown what the server's side has said, in order and each once. -/
  shown : shown trace <+: said trace
  /-- An end is shown last, or the news that there will be no end comes last. -/
  heard : ∃ (body : List (ResponsePart P)) (last : List (Sight P)),
    heard trace = body.map .shown ++ last ∧ (∀ part ∈ body, part.isFinish = false) ∧
    (last = [] ∨ (∃ part, part.isFinish = true ∧ last = [.shown part]) ∨ last = [.failed])
  /-- Nothing is left in the queue to the client, once there is one, unless it has had its end. -/
  delivered : phase trace ≠ .fresh → l.DeliveringRests →
    (∃ part ∈ Line.shown trace, part.isFinish = true) ∨ .failed ∈ trace ∨
      Line.shown trace = said trace
  /-- There will be no end once everything that was said has been shown. -/
  failed : .failed ∈ trace → ∃ before after, trace = before ++ .failed :: after ∧
    Line.shown trace = said before

/-! ### Readings of longer traces -/

section Readings

variable (first second : List (Sight P))

theorem phase_append : phase (first ++ second) = second.foldl Phase.next (phase first) :=
  List.foldl_append ..

theorem along_append {β : Type} (read? : Phase → Sight P → Option β) (start : Phase) :
    along read? start (first ++ second) =
      along read? start first ++ along read? (first.foldl Phase.next start) second := by
  induction first generalizing start with
  | nil => rfl
  | cons sight rest ih =>
    rw [List.cons_append, along, along, ih, List.append_assoc]
    rfl

theorem entered_append :
    entered (first ++ second) = entered first ++ along Phase.entry? (phase first) second :=
  along_append first second Phase.entry? .fresh

theorem refused_append :
    refused (first ++ second) = refused first ++ along Phase.refusal? (phase first) second :=
  along_append first second Phase.refusal? .fresh

@[simp] theorem handed_append : handed (first ++ second) = handed first ++ handed second :=
  List.filterMap_append

@[simp] theorem taken_append : taken (first ++ second) = taken first ++ taken second :=
  List.filterMap_append

@[simp] theorem said_append : said (first ++ second) = said first ++ said second :=
  List.filterMap_append

@[simp] theorem heard_append : heard (first ++ second) = heard first ++ heard second :=
  List.filter_append ..

end Readings

theorem along_entry?_closed (trace : List (Sight P)) : along Phase.entry? .closed trace = [] := by
  induction trace with
  | nil => rfl
  | cons sight rest ih => cases sight <;> exact ih

/-- Behind the parts that enter there is a cancellation at most. -/
theorem entered_form (start : Phase) (trace : List (Sight P)) :
    ∃ (parts : List (RequestPart P × Nat)) (cancel? : Option Nat), along Phase.entry? start trace =
      parts.map (fun entry => .part entry.1 entry.2) ++ cancel?.toList.map .cancel := by
  induction trace generalizing start with
  | nil => exact ⟨[], none, rfl⟩
  | cons sight rest ih =>
    unfold along
    cases start with
    | fresh => exact ih (Phase.fresh.next sight)
    | closed =>
      rw [show Phase.closed.next sight = .closed from rfl, along_entry?_closed]
      exact ⟨[], none, rfl⟩
    | opened =>
      cases sight with
      | sent part ticket =>
        obtain ⟨parts, cancel?, all⟩ := ih .opened
        exact ⟨(part, ticket) :: parts, cancel?, congrArg (ToServer.part part ticket :: ·) all⟩
      | cancelled ticket =>
        rw [show Phase.opened.next (.cancelled ticket : Sight P) = .closed from rfl,
          along_entry?_closed]
        exact ⟨[], some ticket, rfl⟩
      | ended =>
        rw [show Phase.opened.next (.ended : Sight P) = .closed from rfl, along_entry?_closed]
        exact ⟨[], none, rfl⟩
      | _ => exact ih .opened

/-! ### Cancellations and the end -/

section Endings

variable {trace : List (Sight P)} {ticket : Nat}

/-- What is read as a cancellation was one. -/
theorem cancelled_of_entry {start : Phase}
    (entered : .cancel ticket ∈ along Phase.entry? start trace) : .cancelled ticket ∈ trace := by
  induction trace generalizing start with
  | nil => cases entered
  | cons sight rest ih =>
    rcases List.mem_append.mp entered with here | later
    · have same : start.entry? sight = some (.cancel ticket) := Option.mem_toList.mp here
      cases start <;> cases sight <;> cases same
      exact List.mem_cons_self
    · exact List.mem_cons_of_mem _ (ih later)

/-- The first cancellation of an open link enters the queue. -/
theorem entry_of_cancelled (open_ : .ended ∉ trace) (cancelled : .cancelled ticket ∈ trace) :
    ∃ first, .cancel first ∈ along Phase.entry? .opened trace := by
  induction trace with
  | nil => cases cancelled
  | cons sight rest ih =>
    have unended : .ended ∉ rest := fun member => open_ (List.mem_cons_of_mem _ member)
    unfold along
    cases sight with
    | cancelled number => exact ⟨number, List.mem_append_left _ (List.mem_singleton.mpr rfl)⟩
    | ended => exact absurd List.mem_cons_self open_
    | _ =>
      have later : .cancelled ticket ∈ rest := by simpa using cancelled
      obtain ⟨first, entered⟩ := ih unended later
      exact ⟨first, List.mem_append_right _ entered⟩

theorem phase_ne_fresh {start : Phase} (begun : start ≠ .fresh) (sights : List (Sight P)) :
    sights.foldl Phase.next start ≠ .fresh := by
  induction sights generalizing start with
  | nil => exact begun
  | cons sight rest ih =>
    refine ih ?_
    cases start <;> cases sight <;> simp_all [Phase.next]

/-- Nothing enters after the end. -/
theorem entered_until_ended (begun : phase trace ≠ .fresh) (later : List (Sight P)) :
    entered (trace ++ .ended :: later) = entered trace := by
  have closed : (phase trace).next (.ended : Sight P) = .closed := by
    cases h : phase trace <;> simp_all [Phase.next]
  rw [entered_append, along, closed, along_entry?_closed, List.append_nil]
  cases h : phase trace <;> exact List.append_nil _

theorem delivered_of_ended {l : Line P} {acts : List (Act P)} (ended : .ended ∈ l.trace acts) :
    .delivered ∈ acts := by
  induction acts generalizing l with
  | nil => cases ended
  | cons act rest ih =>
    rcases List.mem_append.mp ended with here | later
    · cases act with
      | delivered => exact List.mem_cons_self
      | serve => grind [perform, serve, take]
      | deliver => grind [perform, deliver]
      | _ => grind [perform]
    · exact List.mem_cons_of_mem _ (ih later)

end Endings

end Line

end RemoteCall
