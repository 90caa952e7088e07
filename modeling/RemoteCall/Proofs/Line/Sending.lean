import Mathlib.Data.List.Induction
import RemoteCall.Proofs.Line
import RemoteCall.Proofs.Link

/-!
# The way to the server

What enters the queue to the server is taken in this order: what has been taken and what is still
in the queue make up what has entered, and the acceptances of the parts agree with that
(`Line.Sends`). Every act keeps this (`Line.Sends.perform`).
-/

namespace RemoteCall.Line

variable {P : Type}

theorem getElem?_concat_eq_some {α : Type} {xs : List α} {last x : α} {i : Nat} :
    (xs ++ [last])[i]? = some x ↔ xs[i]? = some x ∨ i = xs.length ∧ last = x := by
  grind

/-- What a trace tells about the way to the server. -/
structure Outward (P : Type) where
  phase : Phase
  entered : List (ToServer P)
  taken : List (ToServer P)
  handed : List (ToServer P)
  refused : List (Nat × CallError)

def outward (trace : List (Sight P)) : Outward P :=
  ⟨phase trace, entered trace, taken trace, handed trace, refused trace⟩

def Outward.next (o : Outward P) (sight : Sight P) : Outward P where
  phase := o.phase.next sight
  entered := o.entered ++ (o.phase.entry? sight).toList
  taken := o.taken ++ sight.taken?.toList
  handed := o.handed ++ sight.handed?.toList
  refused := o.refused ++ (o.phase.refusal? sight).toList

theorem outward_append (first second : List (Sight P)) :
    outward (first ++ second) = second.foldl Outward.next (outward first) := by
  induction second using List.reverseRecOn with
  | nil => rw [List.append_nil, List.foldl_nil]
  | append_singleton rest last ih =>
    rw [List.foldl_append, ← ih, ← List.append_assoc]
    generalize first ++ rest = trace
    unfold outward
    rw [List.foldl_cons, List.foldl_nil, Outward.next]
    rw [entered_append, refused_append, taken_append, handed_append, phase_append]
    congr 1
    · rw [along, along, List.append_nil]
    · rw [along, along, List.append_nil]

/-- What the server's side says and what the client hears does not bear on the way to the
server. -/
theorem Outward.next_of_isBack (o : Outward P) {sight : Sight P} (back : sight.isBack = true) :
    o.next sight = o := by
  obtain ⟨phase, entered, taken, handed, refused⟩ := o
  cases sight with
  | said | shown | failed =>
    cases phase <;> simp [next, Phase.next, Phase.entry?, Phase.refusal?, Sight.taken?,
      Sight.handed?]
  | _ => cases back

/-- How the way to the server stands. -/
structure Sends (o : Outward P) (l : Line P) : Prop where
  phase_of_open : l.link.isOpen = true → o.phase = .opened
  open_of_phase : l.held = true → o.phase = .opened → l.link.isOpen = true
  invoked : l.link.invoked = true ↔ o.phase ≠ .fresh
  started : l.link.serving = .idle ↔ o.phase = .fresh
  unused : l.link.serving = .stopped ∨ l.link.serving = .idle →
    l.link.toServer = [] ∧ l.link.isOpen = false
  fifo : o.entered = o.taken ++ l.link.toServer
  handed : o.handed = if l.routed then o.taken else []
  inHand : ∀ item, l.serving = some item → item ∈ o.taken
  tickets : (o.entered.filterMap ToServer.ticket?).Pairwise (· < ·)
  counted : ∀ part ticket, .part part ticket ∈ o.entered →
    ticket < l.link.requestSignals.length ∧
      ∀ e, l.link.requestSignals[ticket]? ≠ some (.settled (.error e))
  accepted : ∀ ticket, l.link.requestSignals[ticket]? = some (.settled (.ok ())) →
    ∃ part, .part part ticket ∈ o.taken
  refused : ∀ ticket e, (ticket, e) ∈ o.refused →
    l.link.requestSignals[ticket]? = some (.settled (.error e))

/-- The way to the server is as before, but may have closed when nobody can use it. -/
structure Spares (l l' : Line P) : Prop where
  closes : l'.link.isOpen = true → l.link.isOpen = true
  held : l'.held = true → l.held = true ∧ l'.link.isOpen = l.link.isOpen
  invoked : l'.link.invoked = l.link.invoked
  pump : l'.link.serving = l.link.serving
  queue : l'.link.toServer = l.link.toServer
  signals : l'.link.requestSignals = l.link.requestSignals
  routed : l'.routed = l.routed
  hand : ∀ item, l'.serving = some item → l.serving = some item

theorem Spares.letGo {l l' : Line P} (spares : l.Spares l') : l.Spares l'.letGo := by
  unfold Line.letGo
  split
  · exact spares
  · next alone =>
    have gone : l'.held = false := by simp_all
    exact ⟨nofun, fun held => absurd held (by simp [gone]), spares.invoked, spares.pump,
      spares.queue, spares.signals, spares.routed, spares.hand⟩

/-- A link on whose way to the server nothing has happened. -/
theorem Spares.of_link {l : Line P} {link : Link P} (isOpen : link.isOpen = l.link.isOpen)
    (invoked : link.invoked = l.link.invoked) (pump : link.serving = l.link.serving)
    (queue : link.toServer = l.link.toServer)
    (signals : link.requestSignals = l.link.requestSignals) : l.Spares { l with link } :=
  ⟨fun now => isOpen ▸ now, fun held => ⟨held, isOpen⟩, invoked, pump, queue, signals, rfl,
    fun _ => id⟩

theorem Spares.respond (l : Line P) (part : ResponsePart P) :
    l.Spares { l with link := l.link.respond part } := by
  unfold Link.respond
  split <;> exact .of_link rfl rfl rfl rfl rfl

namespace Sends

variable {o : Outward P} {l l' : Line P}

theorem start (routed : Bool) : (fresh routed : Line P).Sends (outward []) := by
  refine ⟨nofun, nofun, ?_, ?_, fun _ => ⟨rfl, rfl⟩, rfl, ?_, nofun, .nil, nofun, nofun, nofun⟩
  · simp [fresh, outward, phase]
  · simp [fresh, outward, phase]
  · cases routed <;> rfl

theorem of_spares (sends : l.Sends o) (spares : l.Spares l') : l'.Sends o where
  phase_of_open now := sends.phase_of_open (spares.closes now)
  open_of_phase held opened := by
    obtain ⟨held, same⟩ := spares.held held
    rw [same]
    exact sends.open_of_phase held opened
  invoked := by rw [spares.invoked, sends.invoked]
  started := by rw [spares.pump, sends.started]
  unused unused := by
    obtain ⟨drained, closed⟩ := sends.unused (spares.pump ▸ unused)
    exact ⟨spares.queue ▸ drained,
      Bool.eq_false_iff.mpr fun now => by simp [spares.closes now] at closed⟩
  fifo := by rw [spares.queue, sends.fifo]
  handed := by rw [spares.routed, sends.handed]
  inHand item here := sends.inHand item (spares.hand item here)
  tickets := sends.tickets
  counted := by
    rw [spares.signals]
    exact sends.counted
  accepted := by
    rw [spares.signals]
    exact sends.accepted
  refused := by
    rw [spares.signals]
    exact sends.refused

/-! ### What the client does -/

theorem invoke (sends : l.Sends o) (first : l.link.invoked = false) :
    ({ l with link := l.link.invoke.2 } : Line P).Sends (o.next .invoked) := by
  have fresh : o.phase = .fresh := by simpa [first] using sends.invoked
  have here : l.link.invoke.2 = { l.link with
      invoked := true, isOpen := true, serving := .starting, delivering := .running } := by
    unfold Link.invoke
    rw [first]
    rfl
  have next : o.next .invoked = { o with phase := .opened } := by
    simp [Outward.next, fresh, Phase.next, Phase.entry?, Phase.refusal?, Sight.taken?,
      Sight.handed?]
  rw [here, next]
  exact ⟨fun _ => rfl, fun _ _ => rfl, by simp, by simp, by simp, sends.fifo, sends.handed,
    sends.inHand, sends.tickets, sends.counted, sends.accepted, sends.refused⟩

/-- The numbers that a queue has seen are below the number of the next part. -/
theorem ticket_lt (sends : l.Sends o) {ticket : Nat}
    (entered : ticket ∈ o.entered.filterMap ToServer.ticket?) :
    ticket < l.link.requestSignals.length := by
  obtain ⟨item, member, number⟩ := List.mem_filterMap.mp entered
  cases item with
  | cancel => cases number
  | part part other =>
    cases number
    exact (sends.counted part ticket member).1

/-! A part that is sent gets an acceptance of its own, behind all others. -/

theorem counted_concat (sends : l.Sends o) (signal : Signal) {part : RequestPart P} {ticket : Nat}
    (entered : .part part ticket ∈ o.entered) :
    ticket < (l.link.requestSignals ++ [signal]).length ∧
      ∀ e, (l.link.requestSignals ++ [signal])[ticket]? ≠ some (.settled (.error e)) := by
  obtain ⟨below, fine⟩ := sends.counted part ticket entered
  rw [List.length_append, List.length_singleton, List.getElem?_append_left below]
  exact ⟨by omega, fine⟩

theorem accepted_concat (sends : l.Sends o) {signal : Signal} (open_ : signal ≠ .settled (.ok ()))
    {ticket : Nat}
    (ok : (l.link.requestSignals ++ [signal])[ticket]? = some (.settled (.ok ()))) :
    ∃ part, .part part ticket ∈ o.taken := by
  rcases getElem?_concat_eq_some.mp ok with ok | ⟨-, same⟩
  · exact sends.accepted ticket ok
  · exact absurd same open_

theorem refused_concat (sends : l.Sends o) (signal : Signal) {ticket : Nat} {e : CallError}
    (refused : (ticket, e) ∈ o.refused) :
    (l.link.requestSignals ++ [signal])[ticket]? = some (.settled (.error e)) :=
  getElem?_concat_eq_some.mpr (.inl (sends.refused ticket e refused))

theorem send (sends : l.Sends o) (held : l.held = true) (part : RequestPart P) :
    ({ l with link := l.link.send part } : Line P).Sends
      (o.next (.sent part l.link.requestSignals.length)) := by
  unfold Link.send
  split
  · next isOpen =>
    have next : o.next (.sent part l.link.requestSignals.length) =
        { o with entered := o.entered ++ [.part part l.link.requestSignals.length] } := by
      simp [Outward.next, sends.phase_of_open isOpen, Phase.next, Phase.entry?, Phase.refusal?,
        Sight.taken?, Sight.handed?]
    rw [next]
    refine { sends with
      fifo := by rw [sends.fifo, List.append_assoc]
      unused := fun unused => ?_, tickets := ?_, counted := ?_
      accepted := fun _ ok => sends.accepted_concat (by simp) ok
      refused := fun _ _ refused => sends.refused_concat _ refused }
    · simp [(sends.unused unused).2] at isOpen
    · rw [List.filterMap_append, List.pairwise_append]
      refine ⟨sends.tickets, List.pairwise_singleton .., fun ticket entered new same => ?_⟩
      obtain rfl : new = l.link.requestSignals.length := by simpa [ToServer.ticket?] using same
      exact sends.ticket_lt entered
    · intro other ticket entered
      rcases List.mem_append.mp entered with entered | new
      · exact sends.counted_concat _ entered
      · obtain ⟨-, rfl⟩ : other = part ∧ ticket = l.link.requestSignals.length := by simpa using new
        simp
  · next closed =>
    have next : o.next (.sent part l.link.requestSignals.length) =
        { o with refused := o.refused ++ [(l.link.requestSignals.length, l.link.rejection)] } := by
      have unopened : o.phase ≠ .opened := fun opened => closed (sends.open_of_phase held opened)
      have invoked := sends.invoked
      unfold Outward.next Link.rejection
      cases phase : o.phase with
      | opened => exact absurd phase unopened
      | fresh | closed =>
        simp [phase] at invoked
        simp [invoked, Phase.next, Phase.entry?, Phase.refusal?, Sight.taken?, Sight.handed?]
    rw [next]
    refine { sends with
      counted := fun _ _ entered => sends.counted_concat _ entered
      accepted := fun _ ok => sends.accepted_concat (by simp) ok
      refused := fun ticket e refused => ?_ }
    rcases List.mem_append.mp refused with refused | new
    · exact sends.refused_concat _ refused
    · obtain ⟨rfl, rfl⟩ : ticket = l.link.requestSignals.length ∧ e = l.link.rejection := by
        simpa using new
      exact getElem?_concat_eq_some.mpr (.inr ⟨rfl, rfl⟩)

theorem cancel (sends : l.Sends o) (held : l.held = true) :
    ({ l with link := l.link.cancel } : Line P).Sends
      (o.next (.cancelled l.link.cancelSignals.length)) := by
  unfold Link.cancel
  split
  · next isOpen =>
    have opened := sends.phase_of_open isOpen
    have next : o.next (.cancelled l.link.cancelSignals.length) =
        { o with
          phase := .closed
          entered := o.entered ++ [.cancel l.link.cancelSignals.length] } := by
      simp [Outward.next, opened, Phase.next, Phase.entry?, Phase.refusal?,
        Sight.taken?, Sight.handed?]
    rw [next]
    refine { sends with
      phase_of_open := fun isOpen => absurd isOpen Bool.false_ne_true
      open_of_phase := fun _ opened => by cases opened
      invoked := by simp [sends.invoked, opened]
      started := by simp [sends.started, opened]
      fifo := by rw [sends.fifo, List.append_assoc]
      unused := fun unused => ?_
      tickets := by simpa [List.filterMap_cons, ToServer.ticket?] using sends.tickets
      counted := by simpa using sends.counted }
    simp [(sends.unused unused).2] at isOpen
  · next closed =>
    have next : o.next (.cancelled l.link.cancelSignals.length) = o := by
      have unopened : o.phase ≠ .opened := fun opened => closed (sends.open_of_phase held opened)
      obtain ⟨phase, entered, taken, handed, refused⟩ := o
      cases phase with
      | opened => exact absurd rfl unopened
      | fresh | closed =>
        simp [Outward.next, Phase.next, Phase.entry?, Phase.refusal?, Sight.taken?, Sight.handed?]
    rw [next]
    exact { sends with }

/-! ### What the serving pump does -/

/-- The pump takes what is next. -/
theorem take (sends : l.Sends o) {item : ToServer P} {rest : List (ToServer P)}
    (pump : l.link.serving = .running) (next : l.link.toServer = item :: rest) :
    (l.take item { l.link with toServer := rest }).1.Sends
      ((l.take item { l.link with toServer := rest }).2.foldl Outward.next o) := by
  have routed : o.next (if l.routed then .handed item else .discarded item) =
      { o with
        taken := o.taken ++ [item]
        handed := o.handed ++ if l.routed then [item] else [] } := by
    cases l.routed <;> cases phase : o.phase <;>
      simp [Outward.next, phase, Phase.next, Phase.entry?, Phase.refusal?, Sight.taken?,
        Sight.handed?]
  unfold Line.take
  rw [List.foldl_cons, List.foldl_nil, routed]
  refine { sends with
    unused := fun unused => ?_
    fifo := by rw [sends.fifo, next, List.append_assoc]; rfl
    handed := ?_
    inHand := fun other here => ?_
    accepted := fun ticket ok => ?_ }
  · simp [pump] at unused
  · rw [sends.handed]
    split <;> rfl
  · cases here
    exact List.mem_append_right _ (List.mem_singleton.mpr rfl)
  · obtain ⟨part, taken⟩ := sends.accepted ticket ok
    exact ⟨part, List.mem_append_left _ taken⟩

/-- The pump starts. -/
theorem dispatch (sends : l.Sends o) (pump : l.link.serving = .starting) :
    ({ l with link := { l.link with serving := .running } } : Line P).Sends o :=
  { sends with
    started := by simpa [pump] using sends.started
    unused := by simp }

theorem serve (sends : l.Sends o) : l.serve.1.Sends (l.serve.2.foldl Outward.next o) := by
  unfold Line.serve
  split
  · next step =>
    cases Link.serves_of_serve? step with
    | dispatch starting =>
      have started := sends.dispatch starting
      split
      · exact started
      · rw [List.foldl_cons, List.foldl_nil, Outward.next_of_isBack o rfl]
        exact (started.of_spares (.respond _ _)).of_spares (.of_link rfl rfl rfl rfl rfl)
  · next step =>
    cases Link.serves_of_serve? step with
    | part pump next => exact sends.take pump next
  · next step =>
    cases Link.serves_of_serve? step with
    | cancel pump next => exact sends.take pump next
  · next step =>
    cases Link.serves_of_serve? step with
    | release pump drained closed =>
      refine { sends with started := ?_, unused := fun _ => ⟨drained, closed⟩ }
      simpa [pump] using sends.started
  · exact sends

theorem served (sends : l.Sends o) : l.served.Sends o := by
  unfold Line.served
  split
  · next part ticket inHand =>
    have taken := sends.inHand _ inHand
    have entered : .part part ticket ∈ o.entered := by
      rw [sends.fifo]
      exact List.mem_append_left _ taken
    obtain ⟨below, fine⟩ := sends.counted part ticket entered
    unfold Link.acceptRequest
    refine { sends with
      inHand := nofun
      counted := fun other number entered => ?_
      accepted := fun number ok => ?_
      refused := fun number e refused => ?_ }
    · obtain ⟨below, fine⟩ := sends.counted other number entered
      refine ⟨by rwa [List.length_set], fun e => ?_⟩
      by_cases same : ticket = number
      · subst same
        simp [List.getElem?_set_self below]
      · rw [List.getElem?_set_ne same]
        exact fine e
    · by_cases same : ticket = number
      · subst same
        exact ⟨part, taken⟩
      · rw [List.getElem?_set_ne same] at ok
        exact sends.accepted number ok
    · have other : ticket ≠ number := by
        rintro rfl
        exact fine e (sends.refused ticket e refused)
      rw [List.getElem?_set_ne other]
      exact sends.refused number e refused
  · exact { sends with inHand := nofun }
  · exact sends

/-! ### What happens on the way back -/

theorem deliver (sends : l.Sends o) : l.deliver.1.Sends (l.deliver.2.foldl Outward.next o) := by
  unfold Line.deliver
  split
  · next part ticket link hand step =>
    rw [List.foldl_cons, List.foldl_nil, Outward.next_of_isBack o rfl]
    cases Link.delivers_of_deliver? step
    exact sends.of_spares ⟨id, fun held => ⟨held, rfl⟩, rfl, rfl, rfl, rfl, rfl, fun _ => id⟩
  · next link hand step =>
    rw [List.foldl_cons, List.foldl_nil, Outward.next_of_isBack o rfl]
    cases Link.delivers_of_deliver? step
    have spared : l.Spares { l with link := { l.link with delivering := .stopped } } :=
      .of_link rfl rfl rfl rfl rfl
    exact sends.of_spares spared.letGo
  · exact sends

theorem delivered (sends : l.Sends o) :
    l.delivered.1.Sends (l.delivered.2.foldl Outward.next o) := by
  unfold Line.delivered Link.acceptResponse
  split
  · next part ticket hand =>
    cases finish : part.isFinish with
    | false =>
      exact sends.of_spares ⟨id, fun held => ⟨held, rfl⟩, rfl, rfl, rfl, rfl, rfl, fun _ => id⟩
    | true =>
      have next : o.next .ended = { o with phase := o.phase.next (.ended : Sight P) } := by
        cases phase : o.phase <;>
          simp [Outward.next, phase, Phase.entry?, Phase.refusal?, Sight.taken?, Sight.handed?]
      have same : o.phase.next (.ended : Sight P) = .fresh ↔ o.phase = .fresh := by
        cases o.phase <;> simp [Phase.next]
      rw [if_pos rfl, if_pos rfl, List.foldl_cons, List.foldl_nil, next]
      refine { sends with
        phase_of_open := fun isOpen => absurd isOpen Bool.false_ne_true
        open_of_phase := fun _ opened => ?_
        invoked := sends.invoked.trans (not_congr same.symm)
        started := sends.started.trans same.symm
        unused := fun unused => ⟨(sends.unused unused).1, rfl⟩ }
      cases phase : o.phase <;> simp [phase, Phase.next] at opened
  · exact sends

theorem perform (sends : l.Sends o) (act : Act P) :
    (l.perform act).1.Sends ((l.perform act).2.foldl Outward.next o) := by
  cases act with
  | invoke =>
    unfold Line.perform
    dsimp only
    split
    · next first =>
      exact sends.invoke (by simp_all)
    · exact sends
  | send part =>
    unfold Line.perform
    dsimp only
    split
    · next held => exact sends.send held part
    · exact sends
  | cancel =>
    unfold Line.perform
    dsimp only
    split
    · next held => exact sends.cancel held
    · exact sends
  | drop =>
    exact sends.of_spares (Spares.letGo ⟨id, nofun, rfl, rfl, rfl, rfl, rfl, fun _ => id⟩)
  | respond part =>
    have spared := sends.of_spares (.respond l part)
    rwa [← Outward.next_of_isBack o (rfl : (Sight.said part).isBack = true)] at spared
  | leave => exact sends.of_spares (.of_link rfl rfl rfl rfl rfl)
  | serve => exact sends.serve
  | served => exact sends.served
  | deliver => exact sends.deliver
  | delivered => exact sends.delivered

/-- A pump that rests has left nothing behind. -/
theorem drained (sends : l.Sends o) (rests : l.ServingRests) : l.link.toServer = [] := by
  obtain ⟨-, still⟩ := rests
  cases pump : l.link.serving with
  | stopped => exact (sends.unused (.inl pump)).1
  | idle => exact (sends.unused (.inr pump)).1
  | starting => simp [Link.serve?, pump] at still
  | running =>
    cases queue : l.link.toServer with
    | nil => rfl
    | cons entry rest => cases entry <;> simp [Link.serve?, pump, queue] at still

end Sends

end RemoteCall.Line
