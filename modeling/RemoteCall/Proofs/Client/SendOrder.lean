import RemoteCall.Proofs.Client.SendQueues

/-!
# The order of sends

Parts enter the chain in the order in which their sends begin, whatever happens in between, and so
they reach the transport (`Active.sends_in_order`). That is the order of the calls if each send
begins before the next one is called, and need not be otherwise (`Active.later_send_overtakes`).
-/

namespace RemoteCall.Client

variable {σ P Req Resp : Type}

/-- A request that has ended does not go on. -/
theorem Call.Changes.closed_of_closed {setup : Setup σ P Req Resp} {call call' : Call σ Resp}
    (changes : call.Changes setup call') (closed : call.closed = true) : call'.closed = true := by
  cases changes with
  | rest => exact closed
  | event event => exact (Event.closedFlag_pass setup event call).mpr (.inl closed)
  | stream f => exact closed
  | note update => exact closed

namespace Active

section

variable (a : Active σ P Req Resp)

/-- The parts that enter the chain, each with what the transport is asked meanwhile. -/
def passes (happening : Happening σ P Req Resp) : List (RequestPart Req × List (TransportOp P)) :=
  (a.hands happening).flatMap fun parts => Pass.passages a.setup parts a.call

def passages (course : List (Happening σ P Req Resp)) :
    List (RequestPart Req × List (TransportOp P)) :=
  along passes course a

/-- The parts that enter the chain in a course. -/
def entries (course : List (Happening σ P Req Resp)) : List (RequestPart Req) :=
  (a.passages course).map Prod.fst

end

theorem passages_cons (a : Active σ P Req Resp) (happening : Happening σ P Req Resp)
    (rest : List (Happening σ P Req Resp)) :
    a.passages (happening :: rest) =
      a.passes happening ++ (a.happen happening).1.passages rest := rfl

theorem entries_cons (a : Active σ P Req Resp) (happening : Happening σ P Req Resp)
    (rest : List (Happening σ P Req Resp)) :
    a.entries (happening :: rest) =
      (a.passes happening).map Prod.fst ++ (a.happen happening).1.entries rest :=
  List.map_append

/-- A call that takes nothing goes on to take nothing. -/
theorem refusal?_happen {a : Active σ P Req Resp} (happening : Happening σ P Req Resp)
    (refused : (Pass.start a.call : Pass σ P Resp).refusal? ≠ none) :
    (Pass.start (a.happen happening).1.call : Pass σ P Resp).refusal? ≠ none := by
  intro free
  obtain ⟨open_, running⟩ := Pass.refusal?_eq_none_iff.mp free
  refine refused (Pass.refusal?_eq_none_iff.mpr ⟨?_, ?_⟩)
  · refine Bool.eq_false_iff.mpr fun closed => ?_
    have still := (changes_happen a happening).closed_of_closed closed
    exact Bool.false_ne_true (open_.symm.trans still)
  · exact Bool.eq_false_iff.mpr fun gone =>
      Bool.false_ne_true (running.symm.trans (terminated_happen happening gone))

theorem entries_of_refusal {a : Active σ P Req Resp} (course : List (Happening σ P Req Resp))
    (refused : (Pass.start a.call : Pass σ P Resp).refusal? ≠ none) : a.entries course = [] := by
  induction course generalizing a with
  | nil => rfl
  | cons happening rest ih =>
    obtain ⟨e, refuses⟩ := Option.ne_none_iff_exists'.mp refused
    have nothing : a.passes happening = [] :=
      List.flatMap_eq_nil_iff.mpr fun parts _ => Pass.passages_of_refusal parts refuses
    rw [entries_cons, nothing, ih (refusal?_happen happening refused)]
    rfl

/-- What is handed over enters up to a part that is refused, and then nothing more does. -/
theorem passes_happen (a : Active σ P Req Resp) (happening : Happening σ P Req Resp) :
    let b := (a.happen happening).1
    let first := (a.passes happening).map Prod.fst
    ∃ behind, (a.hands happening).flatten = first ++ behind ∧
      (behind ≠ [] → (Pass.start b.call : Pass σ P Resp).refusal? ≠ none) ∧
      (b.call.closed = true ↔ a.call.closed = true ∨ .finish ∈ first) := by
  intro b first
  cases delivers_happen a happening with
  | rest none closed asks =>
    have nothing : first = [] := by simp only [first, passes, none, List.flatMap_nil, List.map_nil]
    refine ⟨[], by rw [none, nothing]; rfl, fun some => absurd rfl some, ?_⟩
    rw [nothing, closed]
    simp
  | event event hands becomes asks =>
    obtain ⟨entered, -⟩ := Event.passages_entries a.setup event a.call
    obtain ⟨behind, split, stops⟩ := Event.exists_entries_append a.setup event a.call
    have same : first = event.entries a.setup a.call := by
      rw [← entered, ← hands]
      rfl
    rw [same, hands, split]
    refine ⟨behind, rfl, fun some => ?_, ?_⟩
    · rw [becomes]
      exact stops some
    · rw [becomes]
      exact Event.closedFlag_pass a.setup event a.call

/-- What was handed over has entered up to a part that was refused: a part behind the end of the
request, or one that came when the call was terminated. -/
theorem exists_refused (a : Active σ P Req Resp) (course : List (Happening σ P Req Resp)) :
    ∃ refused, (a.handed course).flatten = a.entries course ++ refused ∧
      (refused ≠ [] → a.call.closed = true ∨ .finish ∈ a.entries course ∨
        (a.after course).call.terminated = true) := by
  induction course generalizing a with
  | nil => exact ⟨[], rfl, fun some => absurd rfl some⟩
  | cons happening rest ih =>
    let b := (a.happen happening).1
    obtain ⟨refused, later, cause⟩ := ih b
    obtain ⟨behind, now, stops, closed⟩ := passes_happen a happening
    have handed : (a.handed (happening :: rest)).flatten =
        (a.hands happening).flatten ++ (b.handed rest).flatten := List.flatten_append
    rw [handed, now, later, entries_cons]
    by_cases all : behind = []
    · refine ⟨refused, by rw [all, List.append_nil, List.append_assoc], fun some => ?_⟩
      rw [List.mem_append]
      rcases cause some with shut | finish | gone
      · exact (closed.mp shut).imp_right fun finish => .inl (.inl finish)
      · exact .inr (.inl (.inr finish))
      · exact .inr (.inr gone)
    · have nothing : b.entries rest = [] := entries_of_refusal rest (stops all)
      refine ⟨behind ++ refused, ?_, fun _ => ?_⟩
      · rw [nothing, List.append_nil, List.nil_append, List.append_assoc]
      · rw [nothing, List.append_nil]
        by_cases shut : b.call.closed = true
        · exact (closed.mp shut).imp_right .inl
        · by_cases gone : b.call.terminated = true
          · exact .inr (.inr (terminated_after rest gone))
          · have free : (Pass.start b.call : Pass σ P Resp).refusal? = none :=
              Pass.refusal?_eq_none_iff.mpr
                ⟨Bool.eq_false_iff.mpr shut, Bool.eq_false_iff.mpr gone⟩
            exact absurd free (stops all)

/-- What is asked while parts enter is asked in that order. -/
theorem sublist_asked (a : Active σ P Req Resp) (course : List (Happening σ P Req Resp)) :
    ((a.passages course).flatMap Prod.snd).Sublist (a.asked course) := by
  induction course generalizing a with
  | nil => exact List.Sublist.slnil
  | cons happening rest ih =>
    rw [passages_cons, List.flatMap_append]
    refine List.Sublist.append ?_ (ih _)
    unfold passes
    cases delivers_happen a happening with
    | event event hands becomes asks =>
      rw [hands, asks]
      exact (Event.passages_entries a.setup event a.call).2
    | rest none closed asks =>
      rw [none]
      exact List.nil_sublist _

/-- Without hooks the transport gets the parts that enter, and no others. -/
theorem parts_asked_direct {a : Active σ P Req Resp} (plain : a.setup.chain = .empty)
    (course : List (Happening σ P Req Resp)) :
    (a.asked course).filterMap TransportOp.part? =
      (a.entries course).flatMap a.setup.encodings := by
  induction course generalizing a with
  | nil => rfl
  | cons happening rest ih =>
    have setup := setup_happen a happening
    have later := ih (a := (a.happen happening).1) (setup ▸ plain)
    rw [asked, List.filterMap_append, later, setup, entries_cons, List.flatMap_append]
    refine congrArg (· ++ _) ?_
    unfold passes
    cases delivers_happen a happening with
    | event event hands becomes asks =>
      rw [hands, asks, (Event.passages_entries a.setup event a.call).1,
        event.parts_pass_direct plain]
    | rest none closed asks =>
      rw [none, asks]
      rfl

/-- How the sends of a course enter the chain and reach the transport. -/
structure SendsInOrder (a : Active σ P Req Resp) (course : List (Happening σ P Req Resp))
    (refused : List (RequestPart Req)) : Prop where
  /-- The parts enter in the order in which their sends have begun, up to those that are refused;
  the last sends may still wait. -/
  order : (a.begun course).flatten =
    a.entries course ++ refused ++ (a.after course).waiting.flatten
  /-- Parts are refused behind the end of the request and when the call is terminated. -/
  cause : refused ≠ [] → a.call.closed = true ∨ .finish ∈ a.entries course ∨
    (a.after course).call.terminated = true
  /-- What the transport is asked while a part enters, it is asked in the same order. -/
  carried : ((a.passages course).flatMap Prod.snd).Sublist (a.asked course)
  direct : a.setup.chain = .empty → (a.asked course).filterMap TransportOp.part? =
    (a.entries course).flatMap a.setup.encodings
  /-- The sends begin in the order of their calls if each begins before the next one is called. -/
  timely : a.unpolled = [] → a.Timely course →
    a.begun course ++ (a.after course).unpolled = a.called course

/-- Parts enter the chain and reach the transport in the order in which their sends begin, whoever
sends them and whatever else happens. -/
theorem sends_in_order (a : Active σ P Req Resp) (course : List (Happening σ P Req Resp))
    (idle : a.waiting = []) (prompt : a.Prompt course) :
    ∃ refused, a.SendsInOrder course refused := by
  obtain ⟨refused, entered, cause⟩ := exists_refused a course
  refine ⟨refused, ?_, cause, sublist_asked a course,
    fun plain => parts_asked_direct plain course, fun none timely => ?_⟩
  · have handed := handed_course prompt
    rw [idle, List.nil_append] at handed
    rw [← handed, List.flatten_append, entered]
  · have one : a.unpolled.length ≤ 1 := by simp [none]
    have begun := begun_course one timely
    rwa [none, List.nil_append] at begun

/-- A call that sends a stream of texts, right after its start. -/
def reciting : Active Unit String String String := (start recital () 0 (.ok ()) none).1

/-- A message, a batch and the end of the request, each polled before the next one is called. -/
def awaitedSends : List (Happening Unit String String String) :=
  [.engage ⟨some "first", false, .send [.message "a" {}]⟩, .poll "first",
    .errand accepting .waiting, .enqueue [.message "b" {}],
    .engage ⟨some "end", false, .send [.finish]⟩, .poll "end", .errand accepting .waiting,
    .errand accepting .waiting]

/-- Two messages, of which the second one is polled first. -/
def crossedSends : List (Happening Unit String String String) :=
  [.engage ⟨some "first", false, .send [.message "a" {}]⟩,
    .engage ⟨some "second", false, .send [.message "b" {}]⟩, .poll "second",
    .errand accepting .waiting, .poll "first", .errand accepting .waiting]

/-- Where no send begins and none is dropped, a queue may be as it is. -/
theorem eq_nil_of_none {α : Type} {sends queue : List α} (none : sends = []) :
    sends ≠ [] ∨ false = true → queue = [] := by
  rintro (some | drops)
  · exact absurd none some
  · cases drops

/-- Sends that are awaited one by one reach the transport in the order of their calls. -/
theorem awaited_sends_in_order :
    reciting.waiting = [] ∧ reciting.Prompt awaitedSends ∧ reciting.Timely awaitedSends ∧
      reciting.called awaitedSends = [[.message "a" {}], [.message "b" {}], [.finish]] ∧
      reciting.begun awaitedSends = reciting.called awaitedSends ∧
      (∃ refused, reciting.SendsInOrder awaitedSends refused) ∧
      reciting.asked awaitedSends =
        [.send (.message "a" {}), .send (.message "b" {}), .send .finish] := by
  have prompt : reciting.Prompt awaitedSends :=
    ⟨fun _ => rfl, fun _ => rfl, eq_nil_of_none rfl, fun _ => rfl, fun _ => rfl, fun _ => rfl,
      eq_nil_of_none rfl, eq_nil_of_none rfl, trivial⟩
  have timely : reciting.Timely awaitedSends :=
    ⟨fun _ => rfl, eq_nil_of_none rfl, eq_nil_of_none rfl, fun _ => rfl, fun _ => rfl,
      eq_nil_of_none rfl, eq_nil_of_none rfl, eq_nil_of_none rfl, trivial⟩
  obtain ⟨refused, inOrder⟩ := sends_in_order reciting awaitedSends rfl prompt
  have polled : (reciting.after awaitedSends).unpolled = [] := rfl
  have begun := inOrder.timely rfl timely
  rw [polled, List.append_nil] at begun
  exact ⟨rfl, prompt, timely, rfl, begun, ⟨refused, inOrder⟩, rfl⟩

/-- A send that is polled first overtakes one that was called before it. -/
theorem later_send_overtakes :
    reciting.waiting = [] ∧ reciting.Prompt crossedSends ∧
      reciting.called crossedSends = [[.message "a" {}], [.message "b" {}]] ∧
      reciting.asked crossedSends = [.send (.message "b" {}), .send (.message "a" {})] ∧
      reciting.entries crossedSends ≠ (reciting.called crossedSends).flatten := by
  have prompt : reciting.Prompt crossedSends :=
    ⟨fun _ => rfl, fun _ => rfl, fun _ => rfl, eq_nil_of_none rfl, fun _ => rfl,
      eq_nil_of_none rfl, trivial⟩
  have swapped : reciting.entries crossedSends = [.message "b" {}, .message "a" {}] := rfl
  refine ⟨rfl, prompt, rfl, rfl, fun same => ?_⟩
  have texts : [RequestPart.message "b" {}, .message "a" {}] =
      [.message "a" {}, .message "b" {}] := swapped.symm.trans same
  simp at texts

end Active

end RemoteCall.Client
