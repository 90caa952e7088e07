import Mathlib.Data.List.Forall2
import RemoteCall.Link

/-!
# A link in use

As long as neither side has closed it, a link keeps what it is given: the parts in its queues are
those that were sent and not yet taken, and the acceptance of a part waits only while the part is
in its queue (`Link.Flows`). Whatever happens to the responses, the way to the server stays as it
is (`Link.upstream`).
-/

namespace RemoteCall.Link

variable {P : Type} {link : Link P}

/-- Both sides are there, and acceptances that wait are those of parts on their way. -/
structure Flows (link : Link P) : Prop where
  isOpen : link.isOpen = true
  delivering : link.delivering = .running
  attached : link.serverGone = false
  requests : ∀ ticket, link.requestSignals[ticket]? = some .waiting →
    ∃ part, ToServer.part part ticket ∈ link.toServer
  responses : ∀ ticket < link.responseSignals.length,
    link.responseSignals[ticket]? = some (.settled (.ok ())) ∨
      link.responseSignals[ticket]? = some .waiting ∧ ∃ part, (part, ticket) ∈ link.toClient

/-! ### Sending -/

theorem Flows.send_eq (flows : link.Flows) (part : RequestPart P) :
    link.send part = { link with
      toServer := link.toServer ++ [.part part link.requestSignals.length]
      requestSignals := link.requestSignals ++ [.waiting] } := by
  rw [send, if_pos flows.isOpen]

theorem Flows.send (flows : link.Flows) (part : RequestPart P) : (link.send part).Flows := by
  rw [flows.send_eq part]
  refine ⟨flows.isOpen, flows.delivering, flows.attached, fun ticket waiting => ?_,
    flows.responses⟩
  simp only [List.mem_append, List.mem_singleton]
  by_cases old : ticket < link.requestSignals.length
  · rw [List.getElem?_append_left old] at waiting
    obtain ⟨part, member⟩ := flows.requests ticket waiting
    exact ⟨part, Or.inl member⟩
  · rw [List.getElem?_append_right (by omega)] at waiting
    have new : ticket = link.requestSignals.length := by
      have below := (List.getElem?_eq_some_iff.mp waiting).1
      simp only [List.length_singleton] at below
      omega
    exact ⟨part, Or.inr (by rw [new])⟩

/-- Parts that are sent are queued in order. -/
theorem Flows.sendAll (flows : link.Flows) (parts : List (RequestPart P)) :
    ∃ entries signals,
      parts.foldl Link.send link =
        { link with toServer := link.toServer ++ entries, requestSignals := signals } ∧
      (parts.foldl Link.send link).Flows ∧
      List.Forall₂ (fun part entry => ∃ ticket, entry = ToServer.part part ticket) parts entries ∧
      signals.length = link.requestSignals.length + parts.length := by
  induction parts generalizing link with
  | nil =>
    refine ⟨[], link.requestSignals, ?_, flows, .nil, rfl⟩
    rw [List.append_nil]
    rfl
  | cons part rest ih =>
    obtain ⟨entries, signals, sent, later, queued, length⟩ := ih (flows.send part)
    rw [flows.send_eq part] at sent length
    refine ⟨.part part link.requestSignals.length :: entries, signals, ?_, later,
      .cons ⟨_, rfl⟩ queued, ?_⟩
    · rw [List.foldl_cons, flows.send_eq part, sent, List.append_assoc]
      rfl
    · simp only [List.length_append, List.length_singleton] at length
      rw [length, List.length_cons]
      omega

theorem Flows.respond_eq (flows : link.Flows) (part : ResponsePart P) :
    link.respond part = { link with
      toClient := link.toClient ++ [(part, link.responseSignals.length)]
      responseSignals := link.responseSignals ++ [.waiting] } := by
  rw [respond, flows.delivering]
  rfl

theorem Flows.respond (flows : link.Flows) (part : ResponsePart P) : (link.respond part).Flows := by
  rw [flows.respond_eq part]
  refine ⟨flows.isOpen, flows.delivering, flows.attached, flows.requests, fun ticket below => ?_⟩
  simp only [List.mem_append, List.mem_singleton]
  by_cases old : ticket < link.responseSignals.length
  · rw [List.getElem?_append_left old]
    rcases flows.responses ticket old with accepted | ⟨waiting, part, member⟩
    · exact Or.inl accepted
    · exact Or.inr ⟨waiting, part, Or.inl member⟩
  · simp only [List.length_append, List.length_singleton] at below
    obtain rfl : ticket = link.responseSignals.length := by omega
    rw [List.getElem?_append_right (Nat.le_refl _), Nat.sub_self]
    exact Or.inr ⟨rfl, part, Or.inr rfl⟩

/-- Responses that are sent are queued in order. -/
theorem Flows.respondAll (flows : link.Flows) (parts : List (ResponsePart P)) :
    ∃ entries signals,
      parts.foldl Link.respond link =
        { link with toClient := link.toClient ++ entries, responseSignals := signals } ∧
      (parts.foldl Link.respond link).Flows ∧
      List.Forall₂ (fun part entry => part = Prod.fst entry) parts entries ∧
      signals.length = link.responseSignals.length + parts.length := by
  induction parts generalizing link with
  | nil =>
    refine ⟨[], link.responseSignals, ?_, flows, .nil, rfl⟩
    rw [List.append_nil]
    rfl
  | cons part rest ih =>
    obtain ⟨entries, signals, sent, later, queued, length⟩ := ih (flows.respond part)
    rw [flows.respond_eq part] at sent length
    refine ⟨(part, link.responseSignals.length) :: entries, signals, ?_, later,
      .cons rfl queued, ?_⟩
    · rw [List.foldl_cons, flows.respond_eq part, sent, List.append_assoc]
      rfl
    · simp only [List.length_append, List.length_singleton] at length
      rw [length, List.length_cons]
      omega

/-! ### Taking -/

theorem Flows.acceptRequest {part : RequestPart P} {ticket : Nat} {rest : List (ToServer P)}
    (flows : link.Flows) (next : link.toServer = .part part ticket :: rest) :
    ({ link with toServer := rest }.acceptRequest ticket).Flows := by
  refine ⟨flows.isOpen, flows.delivering, flows.attached, fun other waiting => ?_,
    flows.responses⟩
  unfold Link.acceptRequest at waiting
  by_cases same : ticket = other
  · subst same
    have below : ticket < link.requestSignals.length := by
      have below := (List.getElem?_eq_some_iff.mp waiting).1
      rwa [List.length_set] at below
    rw [List.getElem?_set_self below] at waiting
    cases waiting
  · rw [List.getElem?_set_ne same] at waiting
    obtain ⟨part', member⟩ := flows.requests other waiting
    rw [next] at member
    rcases List.mem_cons.mp member with first | later
    · cases first
      exact absurd rfl same
    · exact ⟨part', later⟩

/-- A response part that was taken is accepted. Unless it is the end, the link stays in use. -/
theorem Flows.acceptResponse {part : ResponsePart P} {ticket : Nat}
    {rest : List (ResponsePart P × Nat)} (flows : link.Flows)
    (next : link.toClient = (part, ticket) :: rest) (more : part.isFinish = false) :
    ({ link with toClient := rest }.acceptResponse part ticket) =
        { link with
          toClient := rest
          responseSignals := link.responseSignals.set ticket (.settled (.ok ())) } ∧
      ({ link with toClient := rest }.acceptResponse part ticket).Flows := by
  have accepted : ({ link with toClient := rest }.acceptResponse part ticket) =
      { link with
        toClient := rest
        responseSignals := link.responseSignals.set ticket (.settled (.ok ())) } := by
    rw [Link.acceptResponse, more]
    rfl
  refine ⟨accepted, ?_⟩
  rw [accepted]
  refine ⟨flows.isOpen, flows.delivering, flows.attached, flows.requests, fun other below => ?_⟩
  simp only [List.length_set] at below
  by_cases same : ticket = other
  · subst same
    exact Or.inl (List.getElem?_set_self below)
  · rw [List.getElem?_set_ne same]
    rcases flows.responses other below with accepted | ⟨waiting, part', member⟩
    · exact Or.inl accepted
    · rw [next] at member
      rcases List.mem_cons.mp member with first | later
      · cases first
        exact absurd rfl same
      · exact Or.inr ⟨waiting, part', later⟩

/-- What a step of the delivering pump takes, and what it leaves. -/
inductive Delivers (link : Link P) : DeliverStep P → Link P → Prop where
  | part {part : ResponsePart P} {ticket : Nat} {rest : List (ResponsePart P × Nat)}
      (running : link.delivering = .running) (next : link.toClient = (part, ticket) :: rest) :
      Delivers link (.part part ticket) { link with toClient := rest }
  | error (running : link.delivering = .running) (drained : link.toClient = [])
      (gone : link.serverGone = true) : Delivers link .error { link with delivering := .stopped }

theorem delivers_of_deliver? {step : DeliverStep P} {link' : Link P}
    (next : link.deliver? = some (step, link')) : link.Delivers step link' := by
  unfold deliver? at next
  split at next
  · next running =>
    split at next
    · next queue =>
      cases next
      exact .part running queue
    · next queue =>
      obtain ⟨gone, next⟩ := Option.ite_none_right_eq_some.mp next
      cases next
      exact .error running queue gone
  · cases next

/-! ### The way to the server -/

/-- What the serving pump has to do with. -/
structure Upstream (P : Type) where
  isOpen : Bool
  toServer : List (ToServer P)
  serving : Pump
  serverGone : Bool

def upstream (link : Link P) : Upstream P :=
  ⟨link.isOpen, link.toServer, link.serving, link.serverGone⟩

@[simp] theorem upstream_respond (link : Link P) (part : ResponsePart P) :
    (link.respond part).upstream = link.upstream := by
  unfold Link.respond
  split <;> rfl

@[simp] theorem upstream_foldl_respond (link : Link P) (parts : List (ResponsePart P)) :
    (parts.foldl Link.respond link).upstream = link.upstream := by
  induction parts generalizing link with
  | nil => rfl
  | cons part rest ih => rw [List.foldl_cons, ih, upstream_respond]

@[simp] theorem upstream_acceptRequest (link : Link P) (ticket : Nat) :
    (link.acceptRequest ticket).upstream = link.upstream := rfl

@[simp] theorem upstream_acceptCancel (link : Link P) (ticket : Nat) :
    (link.acceptCancel ticket).upstream = link.upstream := rfl

theorem upstream_of_deliver? {step : DeliverStep P} {link' : Link P}
    (next : link.deliver? = some (step, link')) : link'.upstream = link.upstream := by
  cases delivers_of_deliver? next <;> rfl

/-- The client is told that there will be no end only if the server's side is gone. -/
theorem serverGone_of_deliver? {link' : Link P} (next : link.deliver? = some (.error, link')) :
    link.serverGone = true := by
  cases delivers_of_deliver? next with
  | error _ _ gone => exact gone

/-- Only the end of the response closes a link that was open. -/
theorem upstream_acceptResponse {part : ResponsePart P}
    (closed : part.isFinish = true → link.isOpen = false) (ticket : Nat) :
    (link.acceptResponse part ticket).upstream = link.upstream := by
  unfold Link.acceptResponse
  cases finish : part.isFinish with
  | false => rfl
  | true =>
    unfold upstream
    rw [closed finish]
    rfl

/-- What a step of the serving pump takes, and what it leaves. -/
inductive Serves (link : Link P) : ServeStep P → Link P → Prop where
  | dispatch (starting : link.serving = .starting) :
      Serves link .dispatch { link with serving := .running }
  | part {part : RequestPart P} {ticket : Nat} {rest : List (ToServer P)}
      (running : link.serving = .running) (next : link.toServer = .part part ticket :: rest) :
      Serves link (.part part ticket) { link with toServer := rest }
  | cancel {ticket : Nat} {rest : List (ToServer P)} (running : link.serving = .running)
      (next : link.toServer = .cancel ticket :: rest) :
      Serves link (.cancel ticket) { link with toServer := rest }
  | release (running : link.serving = .running) (drained : link.toServer = [])
      (closed : link.isOpen = false) : Serves link .release { link with serving := .stopped }

theorem serves_of_serve? {step : ServeStep P} {link' : Link P}
    (next : link.serve? = some (step, link')) : link.Serves step link' := by
  unfold serve? at next
  split at next
  · next starting =>
    cases next
    exact .dispatch starting
  · next running =>
    split at next
    · next queue =>
      cases next
      exact .part running queue
    · next queue =>
      cases next
      exact .cancel running queue
    · next queue =>
      by_cases isOpen : link.isOpen = true
      · rw [if_pos isOpen] at next
        cases next
      · rw [if_neg isOpen] at next
        cases next
        exact .release running queue (Bool.eq_false_iff.mpr isOpen)
  · cases next

/-- A pump that can neither start nor take anything from a closed link has stopped, or was never
started. -/
theorem stopped_of_still (closed : link.isOpen = false) (still : link.serve? = none) :
    link.serving = .stopped ∨ link.serving = .idle := by
  cases serving : link.serving with
  | idle => exact Or.inr rfl
  | stopped => exact Or.inl rfl
  | starting => simp [serve?, serving] at still
  | running =>
    cases queue : link.toServer with
    | nil => simp [serve?, serving, queue, closed] at still
    | cons entry rest => cases entry <;> simp [serve?, serving, queue] at still

end RemoteCall.Link
