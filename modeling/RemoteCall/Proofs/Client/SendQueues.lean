import RemoteCall.Proofs.Client.Cleanup
import RemoteCall.Proofs.Client.Passages

/-!
# The two queues of sends

Several sends on one call can be under way at once, from any handle for sending. Three moments of a
send matter. It is called; it begins, which is at once for a batch of messages and at its first
poll for everything else; and its parts are handed to the chain. In between it stands in one of two
queues: `Active.unpolled` are the sends that were called and have not begun, and `Active.waiting`
those that have begun and whose parts were not handed over.

A send is polled and sends in one step, so a course is `Prompt`: nothing else begins while a send
waits. Then `waiting` is first in, first out, and so is `unpolled` in a course in which each send
begins before the next one is called (`Timely`).
-/

namespace RemoteCall.Client

variable {σ P Req Resp : Type}

/-- The batch that a forwarder sends when it moves, if it sends one. -/
def Forwarder.offers (setup : Setup σ P Req Resp) (signals : Nat → Signal) (f : Forwarder Req) :
    List (List (RequestPart Req)) :=
  match Receipt.awaitAll signals f.awaited with
  | some (.ok ()) =>
    if f.closing then []
    else
      match f.next? setup with
      | some (.ok (part, _)) => [[part]]
      | _ => []
  | _ => []

namespace Job

/-- The batch of a send. -/
def batches : Job Req → List (List (RequestPart Req))
  | send parts => [parts]
  | _ => []

/-- What a job sends by itself when it moves: a forwarder calls its sends and polls them at once. -/
def offers (setup : Setup σ P Req Resp) (signals : Nat → Signal) :
    Job Req → List (List (RequestPart Req))
  | forward source => source.offers setup signals
  | collect source => source.offers setup signals
  | _ => []

end Job

/-- The batches of the errands that are sends, of those that were polled or of those that were
not. -/
def batches (polled : Bool) (errands : List (Errand (Job Req))) : List (List (RequestPart Req)) :=
  errands.flatMap fun errand => if errand.begun = polled then errand.job.batches else []

namespace Active

variable (a : Active σ P Req Resp)

/-- The sends that were called and have not begun. -/
def unpolled : List (List (RequestPart Req)) := batches false a.errands

/-- The sends that have begun and whose parts have not entered. -/
def waiting : List (List (RequestPart Req)) := batches true a.errands

/-- The job that moves next, if one can. -/
def mover (signals : Nat → Signal) (cancelSignal : Signal) : List (Job Req) :=
  (Errand.next? (a.moveJob? signals cancelSignal) a.errands).toList.map fun found => found.2.1.job

/-- The sends that are called. -/
def calls : Happening σ P Req Resp → List (List (RequestPart Req))
  | .enqueue parts => [parts]
  | .engage errand => errand.job.batches
  | .errand signals cancelSignal =>
    (a.mover signals cancelSignal).flatMap (·.offers a.setup signals)
  | _ => []

/-- The sends that begin: those that are called and need no poll, and those polled for the first
time. -/
def begins : Happening σ P Req Resp → List (List (RequestPart Req))
  | .enqueue parts => [parts]
  | .engage errand => batches true [errand]
  | .poll id => batches false (Errand.under a.errands id)
  | .errand signals cancelSignal =>
    (a.mover signals cancelSignal).flatMap (·.offers a.setup signals)
  | _ => []

/-- The batches that are handed to the chain. -/
def hands : Happening σ P Req Resp → List (List (RequestPart Req))
  | .enqueue parts => [parts]
  | .errand signals cancelSignal =>
    (a.mover signals cancelSignal).flatMap fun job => job.batches ++ job.offers a.setup signals
  | _ => []

/-- Collects what each happening of a course gives. -/
def along {α : Type} (f : Active σ P Req Resp → Happening σ P Req Resp → List α) :
    List (Happening σ P Req Resp) → Active σ P Req Resp → List α
  | [], _ => []
  | happening :: rest, a => f a happening ++ along f rest (a.happen happening).1

/-- The sends of a course, in the order in which they are called. -/
def called (course : List (Happening σ P Req Resp)) : List (List (RequestPart Req)) :=
  along calls course a

/-- The sends of a course, in the order in which they begin. -/
def begun (course : List (Happening σ P Req Resp)) : List (List (RequestPart Req)) :=
  along begins course a

def handed (course : List (Happening σ P Req Resp)) : List (List (RequestPart Req)) :=
  along hands course a

end Active

/-- Whether an errand is dropped. -/
def Happening.isDrop : Happening σ P Req Resp → Bool
  | drop _ => true
  | _ => false

/-- Whether a happening leaves all sends alone. -/
def Happening.sparesSends : Happening σ P Req Resp → Bool
  | enqueue _ => false
  | engage _ => false
  | poll _ => false
  | drop _ => false
  | errand _ _ => false
  | _ => true

namespace Active

/-- The poll of a send and its move are two happenings of which the application sees one: in
between no other send begins and none is dropped. -/
def Prompt : List (Happening σ P Req Resp) → Active σ P Req Resp → Prop
  | [], _ => True
  | happening :: rest, a =>
    (a.begins happening ≠ [] ∨ happening.isDrop = true → a.waiting = []) ∧
      Prompt rest (a.happen happening).1

/-- Every send begins before another one is called, and none is dropped before that. -/
def Timely : List (Happening σ P Req Resp) → Active σ P Req Resp → Prop
  | [], _ => True
  | happening :: rest, a =>
    (a.calls happening ≠ [] ∨ happening.isDrop = true → a.unpolled = []) ∧
      Timely rest (a.happen happening).1

/-! ### What happens to the queues -/

@[simp] theorem batches_append (polled : Bool) (first second : List (Errand (Job Req))) :
    batches polled (first ++ second) = batches polled first ++ batches polled second :=
  List.flatMap_append

theorem batches_cons (polled : Bool) (errand : Errand (Job Req)) (rest : List (Errand (Job Req))) :
    batches polled (errand :: rest) =
      (if errand.begun = polled then errand.job.batches else []) ++ batches polled rest :=
  List.flatMap_cons

theorem batches_eq_nil {polled : Bool} {errands : List (Errand (Job Req))}
    (none : ∀ errand ∈ errands, errand.begun = polled → errand.job.batches = []) :
    batches polled errands = [] := by
  refine List.flatMap_eq_nil_iff.mpr fun errand member => ?_
  by_cases which : errand.begun = polled
  · rw [if_pos which, none errand member which]
  · rw [if_neg which]

theorem batches_leftBehind (polled : Bool) (errands : List (Errand (Job Req))) (id : String) :
    batches polled (leftBehind errands id) = [] := by
  refine batches_eq_nil fun left member _ => ?_
  rw [eq_cleanup_of_mem_leftBehind member]
  rfl

/-- Where no send stands in a queue, a drop adds none. -/
theorem batches_drop {a : Active σ P Req Resp} {polled : Bool}
    (none : batches polled a.errands = []) (id : String) :
    batches polled (a.drop id).errands = [] := by
  rw [drop_eq, batches_append, batches_leftBehind, List.append_nil]
  refine List.flatMap_eq_nil_iff.mpr fun errand member => ?_
  exact List.flatMap_eq_nil_iff.mp none errand (List.mem_filter.mp member).1

/-- What a poll begins joins the queue of what has begun; nothing overtakes if one of the two is
empty. -/
theorem batches_true_poll {errands : List (Errand (Job Req))} {id : String}
    (apart : batches true errands = [] ∨ batches false (Errand.under errands id) = []) :
    batches true (Errand.poll errands id) =
      batches true errands ++ batches false (Errand.under errands id) := by
  induction errands with
  | nil => rfl
  | cons errand rest ih =>
    have one : batches true (Errand.poll [errand] id) =
        batches true [errand] ++ batches false (Errand.under [errand] id) := by
      unfold Errand.poll Errand.under
      cases named : errand.isNamed id <;> cases begun : errand.begun <;>
        simp [batches, named, begun]
    rw [← List.singleton_append] at apart ⊢
    simp only [Errand.poll_append, Errand.under_append, batches_append, List.append_eq_nil_iff]
      at apart ⊢
    rw [one, ih (apart.imp And.right And.right)]
    rcases apart with ⟨first, later⟩ | ⟨first, later⟩
    · simp [first, later]
    · simp [first, later]

/-- Where no send waits for its first poll, a poll begins none. -/
theorem batches_false_of_none {errands : List (Errand (Job Req))}
    (none : batches false errands = []) (id : String) :
    batches false (Errand.under errands id) = [] ∧
      batches false (Errand.poll errands id) = [] := by
  have idle := List.flatMap_eq_nil_iff.mp none
  constructor
  · refine List.flatMap_eq_nil_iff.mpr fun errand member => ?_
    exact idle errand (List.mem_filter.mp member).1
  · refine List.flatMap_eq_nil_iff.mpr fun errand member => ?_
    obtain ⟨before, found, rfl⟩ := List.mem_map.mp member
    have was := idle before found
    split
    · rfl
    · exact was

/-- Where at most one send was never polled, a poll begins that one or none. -/
theorem batches_false_poll {errands : List (Errand (Job Req))}
    (one : (batches false errands).length ≤ 1) (id : String) :
    batches false (Errand.under errands id) ++ batches false (Errand.poll errands id) =
      batches false errands := by
  induction errands with
  | nil => rfl
  | cons errand rest ih =>
    have first : batches false (Errand.under [errand] id) ++
        batches false (Errand.poll [errand] id) = batches false [errand] := by
      unfold Errand.poll Errand.under
      cases named : errand.isNamed id <;> cases begun : errand.begun <;>
        simp [batches, named, begun]
    rw [← List.singleton_append] at one ⊢
    simp only [Errand.poll_append, Errand.under_append, batches_append, List.length_append] at one ⊢
    by_cases alone : batches false rest = []
    · obtain ⟨begins, left⟩ := batches_false_of_none alone id
      rw [begins, left, alone, List.append_nil, List.append_nil, List.append_nil, first]
    · have some := List.length_pos_iff.mpr alone
      have absent : batches false [errand] = [] := List.eq_nil_of_length_eq_zero (by omega)
      rw [absent, List.append_eq_nil_iff] at first
      rw [first.1, first.2, absent, List.nil_append, List.nil_append, List.nil_append,
        ih (by omega)]

/-! ### What moves -/

/-- A send goes on as a wait, and nothing becomes a send. -/
theorem batches_of_goesOn {a : Active σ P Req Resp} {signals : Nat → Signal}
    {cancelSignal : Signal} {job next : Job Req} {p : Pass σ P Resp}
    (moved : a.moveJob? signals cancelSignal job = some (.goesOn next, p)) : next.batches = [] := by
  cases does_of_moveJob? moved <;> rfl

/-- What a happening does to the call and asks of the transport: it is an event, which hands over
what that sends, or it leaves the request side alone and asks for nothing. -/
inductive Delivers (a : Active σ P Req Resp) (batches : List (List (RequestPart Req)))
    (call : Call σ Resp) (ops : List (TransportOp P)) : Prop where
  | event (event : Event P Req) (hands : batches = event.batches)
      (becomes : call = (event.pass a.setup a.call).call)
      (asks : ops = (event.pass a.setup a.call).ops)
  | rest (none : batches = []) (closed : call.closed = a.call.closed) (asks : ops = [])

/-- A forwarder hands over what it offers, and otherwise nothing. -/
theorem Forwarder.delivers_move? {a : Active σ P Req Resp} {signals : Nat → Signal}
    {f : Forwarder Req} {turn : Turn (Forwarder Req) (Result Unit)} {p : Pass σ P Resp}
    (moved : f.move? a.setup signals a.call = some (turn, p)) :
    a.Delivers (f.offers a.setup signals) p.call p.ops := by
  unfold Forwarder.move? at moved
  unfold Forwarder.offers
  cases accepted : Receipt.awaitAll signals f.awaited with
  | none =>
    rw [accepted] at moved
    cases moved
  | some result =>
    rw [accepted] at moved
    cases result with
    | error e =>
      cases moved
      exact .rest rfl rfl rfl
    | ok u =>
      by_cases closing : f.closing = true
      · simp only [closing, if_true] at moved ⊢
        cases moved
        exact .rest rfl rfl rfl
      · simp only [closing, Bool.false_eq_true, if_false] at moved ⊢
        cases next? : f.next? a.setup with
        | none =>
          rw [next?] at moved
          cases moved
        | some next =>
          rw [next?] at moved
          cases next with
          | error e =>
            cases moved
            exact .rest rfl rfl rfl
          | ok next =>
            obtain ⟨part, next⟩ := next
            have sent : a.Delivers [[part]] (a.call.send a.setup [part]).2.call
                (a.call.send a.setup [part]).2.ops := .event (.send [part]) rfl rfl rfl
            simp only at moved
            split at moved <;> next heq =>
              cases moved
              rwa [heq] at sent

theorem delivers_moveJob? {a : Active σ P Req Resp} {signals : Nat → Signal}
    {cancelSignal : Signal} {job : Job Req} {turn : Turn (Job Req) (Answer Resp)}
    {p : Pass σ P Resp} (moved : a.moveJob? signals cancelSignal job = some (turn, p)) :
    a.Delivers (job.batches ++ job.offers a.setup signals) p.call p.ops := by
  cases does_of_moveJob? moved with
  | sends parts => exact .event (.send parts) rfl rfl rfl
  | cancels first => exact .event .cancel rfl rfl rfl
  | cancelsLate late => exact .event .cancel rfl rfl rfl
  | forwards moved => exact Forwarder.delivers_move? moved
  | forwarded moved => exact Forwarder.delivers_move? moved
  | collects moved => exact Forwarder.delivers_move? moved
  | collected moved => exact Forwarder.delivers_move? moved
  | failed moved => exact Forwarder.delivers_move? moved
  | refused e => exact .rest rfl rfl rfl
  | accepted settled => exact .rest rfl rfl rfl
  | cancelled settled => exact .rest rfl rfl rfl
  | responded known => exact .rest rfl rfl rfl

/-- The move of an errand: the first one that can move does, and leaves both queues. -/
inductive Stirs (a : Active σ P Req Resp) (signals : Nat → Signal) (cancelSignal : Signal) :
    Active σ P Req Resp × List (TransportOp P) → Prop where
  | rest (still : a.mover signals cancelSignal = []) : Stirs a signals cancelSignal (a, [])
  | moves {before behind : List (Errand (Job Req))} {errand : Errand (Job Req)}
      {turn : Turn (Job Req) (Answer Resp)} {p : Pass σ P Resp} {b : Active σ P Req Resp}
      (errands : a.errands = before ++ errand :: behind) (begun : errand.begun = true)
      (first : ∀ earlier ∈ before, earlier.begun = true →
        a.moveJob? signals cancelSignal earlier.job = none)
      (moved : a.moveJob? signals cancelSignal errand.job = some (turn, p))
      (mover : a.mover signals cancelSignal = [errand.job]) (call : b.call = p.call)
      (left : ∀ polled, batches polled b.errands = batches polled before ++ batches polled behind) :
      Stirs a signals cancelSignal (b, p.ops)

theorem stirs_happen (a : Active σ P Req Resp) (signals : Nat → Signal) (cancelSignal : Signal) :
    a.Stirs signals cancelSignal (a.happen (.errand signals cancelSignal)) := by
  simp only [happen, moveErrand?]
  cases found : Errand.next? (a.moveJob? signals cancelSignal) a.errands with
  | none => exact .rest (by rw [mover, found]; rfl)
  | some next =>
    obtain ⟨before, errand, ⟨turn, p⟩, behind⟩ := next
    obtain ⟨errands, went⟩ := eq_append_of_pickFirst? found
    obtain ⟨begun, moved⟩ := Option.ite_none_right_eq_some.mp went
    have first : ∀ earlier ∈ before, earlier.begun = true →
        a.moveJob? signals cancelSignal earlier.job = none := by
      intro earlier member polled
      have none := eq_none_of_pickFirst? found earlier member
      rwa [if_pos polled] at none
    have mover : a.mover signals cancelSignal = [errand.job] := by rw [mover, found]; rfl
    cases turn with
    | goesOn job =>
      refine .moves errands begun first moved mover rfl fun polled => ?_
      have waits := batches_of_goesOn moved
      simp only [batches_append, batches_cons, waits, ite_self, List.nil_append]
    | done answer =>
      refine .moves errands begun first moved mover rfl fun polled => ?_
      have cleanups : ∀ left : Bool, batches polled
          (if left then [(cleanup : Errand (Job Req))] else []) = [] := by
        intro left
        cases left <;> cases polled <;> rfl
      simp only [batches_append, cleanups, List.append_nil]

theorem Stirs.delivers {a b : Active σ P Req Resp} {signals : Nat → Signal}
    {cancelSignal : Signal} {ops : List (TransportOp P)}
    (stirs : a.Stirs signals cancelSignal (b, ops)) :
    a.Delivers (a.hands (.errand signals cancelSignal)) b.call ops := by
  cases stirs with
  | rest still =>
    simp only [hands, still, List.flatMap_nil]
    exact .rest rfl rfl rfl
  | moves errands begun first moved mover call left =>
    simp only [hands, mover, call, List.flatMap_singleton]
    exact delivers_moveJob? moved

theorem delivers_happen (a : Active σ P Req Resp) (happening : Happening σ P Req Resp) :
    a.Delivers (a.hands happening) (a.happen happening).1.call (a.happen happening).2 := by
  cases happening with
  | enqueue parts => exact .event (.send parts) rfl rfl rfl
  | errand signals cancelSignal => exact (stirs_happen a signals cancelSignal).delivers
  | part part => exact .event (.part part) rfl rfl rfl
  | error e => exact .event (.error e) rfl rfl rfl
  | engage errand => exact .rest rfl rfl rfl
  | poll id => exact .rest rfl rfl rfl
  | drop id => exact .rest rfl rfl rfl
  | hold call sender => exact .rest rfl rfl rfl
  | stream f => exact .rest rfl rfl rfl
  | note update => exact .rest rfl rfl rfl
  | dissolve transportHolds =>
    refine .rest rfl ?_ rfl
    rcases call_dissolve a transportHolds with same | same <;> rw [same]
    rfl
  | watchdog now =>
    simp only [happen, hands]
    cases moved : a.expire? now with
    | none => exact .rest rfl rfl rfl
    | some out =>
      obtain ⟨-, call, ops⟩ := expire?_eq moved
      exact .event .expire rfl call ops

/-! ### Courses -/

theorem batches_of_spared {a : Active σ P Req Resp} {happening : Happening σ P Req Resp}
    (spares : happening.sparesSends = true) (polled : Bool) :
    batches polled (a.happen happening).1.errands = batches polled a.errands := by
  cases reshapes_happen a happening with
  | rest unpolled unmoved errands finished => rw [errands]
  | waits errands finished =>
    rw [errands, batches_append]
    cases polled <;> exact List.append_nil _
  | _ => cases spares

/-- What is handed over now and what waits then is what waits now and what begins. -/
theorem hands_happen {a : Active σ P Req Resp} {happening : Happening σ P Req Resp}
    (prompt : a.begins happening ≠ [] ∨ happening.isDrop = true → a.waiting = []) :
    a.hands happening ++ (a.happen happening).1.waiting = a.waiting ++ a.begins happening := by
  have apart : a.waiting = [] ∨ a.begins happening = [] := by
    by_cases none : a.begins happening = []
    · exact .inr none
    · exact .inl (prompt (.inl none))
  have same : ∀ {b : Active σ P Req Resp}, batches true b.errands = batches true a.errands →
      [] ++ b.waiting = a.waiting ++ [] := by
    intro b same
    rw [List.nil_append, List.append_nil]
    exact same
  cases happening with
  | enqueue parts =>
    have idle : a.waiting = [] := prompt (.inl (List.cons_ne_nil _ _))
    show [parts] ++ a.waiting = a.waiting ++ [parts]
    rw [idle]
    rfl
  | engage errand => exact batches_append true a.errands [errand]
  | poll id => exact batches_true_poll apart
  | drop id =>
    have idle : a.waiting = [] := prompt (.inr rfl)
    exact same ((batches_drop idle id).trans idle.symm)
  | errand signals cancelSignal =>
    have stirs := stirs_happen a signals cancelSignal
    generalize a.happen (.errand signals cancelSignal) = out at stirs ⊢
    cases stirs with
    | rest still =>
      simp only [hands, begins, still, List.flatMap_nil, List.nil_append, List.append_nil]
    | @moves before behind errand turn p b errands begun first moved mover call left =>
      -- A send that has begun can always move, so none stands before the job that does.
      have unsent : batches true before = [] := by
        refine batches_eq_nil fun earlier member polled => ?_
        have stuck := first earlier member polled
        cases job : earlier.job with
        | send parts =>
          rw [job] at stuck
          cases stuck
        | _ => rfl
      have waits : a.waiting = errand.job.batches ++ batches true behind := by
        unfold waiting
        rw [errands, batches_append, unsent, batches_cons, if_pos begun]
        rfl
      have later : b.waiting = batches true behind := by
        unfold waiting
        rw [left, unsent]
        rfl
      simp only [begins, mover, List.flatMap_singleton] at apart
      simp only [hands, begins, mover, List.flatMap_singleton, later, waits] at apart ⊢
      rcases apart with idle | nothing
      · obtain ⟨none, rest⟩ := List.append_eq_nil_iff.mp idle
        simp only [none, rest, List.nil_append, List.append_nil]
      · simp only [nothing, List.append_nil]
  | _ => exact same (batches_of_spared rfl true)

theorem length_batches_le_one (job : Job Req) : job.batches.length ≤ 1 := by
  cases job with
  | send parts => exact Nat.le_refl 1
  | _ => exact Nat.zero_le 1

theorem length_offers_le_one (setup : Setup σ P Req Resp) (signals : Nat → Signal) (job : Job Req) :
    (job.offers setup signals).length ≤ 1 := by
  have forwards : ∀ source : Forwarder Req, (source.offers setup signals).length ≤ 1 := by
    intro source
    unfold Forwarder.offers
    split
    · split
      · exact Nat.zero_le 1
      · split
        · exact Nat.le_refl 1
        · exact Nat.zero_le 1
    · exact Nat.zero_le 1
  cases job with
  | forward source => exact forwards source
  | collect source => exact forwards source
  | _ => exact Nat.zero_le 1

/-- What begins now and what was not polled then is what was not polled now and what is called. -/
theorem begins_happen {a : Active σ P Req Resp} {happening : Happening σ P Req Resp}
    (one : a.unpolled.length ≤ 1)
    (timely : a.calls happening ≠ [] ∨ happening.isDrop = true → a.unpolled = []) :
    a.begins happening ++ (a.happen happening).1.unpolled = a.unpolled ++ a.calls happening := by
  have apart : a.unpolled = [] ∨ a.calls happening = [] := by
    by_cases none : a.calls happening = []
    · exact .inr none
    · exact .inl (timely (.inl none))
  have same : ∀ {b : Active σ P Req Resp}, batches false b.errands = batches false a.errands →
      [] ++ b.unpolled = a.unpolled ++ [] := by
    intro b same
    rw [List.nil_append, List.append_nil]
    exact same
  cases happening with
  | enqueue parts =>
    have idle : a.unpolled = [] := timely (.inl (List.cons_ne_nil _ _))
    show [parts] ++ a.unpolled = a.unpolled ++ [parts]
    rw [idle]
    rfl
  | engage errand =>
    have joins : (a.happen (.engage errand)).1.unpolled = a.unpolled ++ batches false [errand] :=
      batches_append false a.errands [errand]
    have kinds : batches true [errand] ++ batches false [errand] = errand.job.batches := by
      cases begun : errand.begun <;> simp [batches, begun]
    simp only [calls] at apart
    rw [joins]
    simp only [begins, calls]
    rcases apart with idle | nothing
    · rw [idle, List.nil_append, List.nil_append, kinds]
    · rw [nothing, List.append_eq_nil_iff] at kinds
      rw [nothing, kinds.1, kinds.2, List.nil_append]
  | poll id => exact (batches_false_poll one id).trans (List.append_nil _).symm
  | drop id =>
    have idle : a.unpolled = [] := timely (.inr rfl)
    exact same ((batches_drop idle id).trans idle.symm)
  | errand signals cancelSignal =>
    have kept : (a.happen (.errand signals cancelSignal)).1.unpolled = a.unpolled := by
      have stirs := stirs_happen a signals cancelSignal
      generalize a.happen (.errand signals cancelSignal) = out at stirs ⊢
      cases stirs with
      | rest still => rfl
      | moves errands begun first moved mover call left =>
        unfold unpolled
        rw [left, errands, batches_append, batches_cons, begun]
        rfl
    rw [kept]
    rcases apart with idle | nothing
    · rw [idle, List.append_nil, List.nil_append]
      rfl
    · have none : a.begins (.errand signals cancelSignal) = [] := nothing
      rw [nothing, none, List.append_nil, List.nil_append]
  | _ => exact same (batches_of_spared rfl false)

theorem length_calls_le_one (a : Active σ P Req Resp) (happening : Happening σ P Req Resp) :
    (a.calls happening).length ≤ 1 := by
  cases happening with
  | enqueue parts => exact Nat.le_refl 1
  | engage errand => exact length_batches_le_one errand.job
  | errand signals cancelSignal =>
    have stirs := stirs_happen a signals cancelSignal
    generalize a.happen (.errand signals cancelSignal) = out at stirs
    cases stirs with
    | rest still => simp [calls, still]
    | moves errands begun first moved mover call left =>
      simp only [calls, mover, List.flatMap_singleton]
      exact length_offers_le_one a.setup signals _
  | _ => exact Nat.zero_le 1

/-- In a prompt course, what was handed over and what waits is what has begun. -/
theorem handed_course {a : Active σ P Req Resp} {course : List (Happening σ P Req Resp)}
    (prompt : a.Prompt course) :
    a.handed course ++ (a.after course).waiting = a.waiting ++ a.begun course := by
  induction course generalizing a with
  | nil => exact (List.append_nil _).symm
  | cons happening rest ih =>
    let b := (a.happen happening).1
    calc (a.hands happening ++ b.handed rest) ++ (b.after rest).waiting
        = a.hands happening ++ (b.waiting ++ b.begun rest) := by
          rw [List.append_assoc, ih prompt.2]
      _ = a.waiting ++ (a.begins happening ++ b.begun rest) := by
          rw [← List.append_assoc, hands_happen prompt.1, List.append_assoc]

/-- In a timely course, what has begun and what was not polled is what was called. -/
theorem begun_course {a : Active σ P Req Resp} {course : List (Happening σ P Req Resp)}
    (one : a.unpolled.length ≤ 1) (timely : a.Timely course) :
    a.begun course ++ (a.after course).unpolled = a.unpolled ++ a.called course := by
  induction course generalizing a with
  | nil => exact (List.append_nil _).symm
  | cons happening rest ih =>
    let b := (a.happen happening).1
    have step : a.begins happening ++ b.unpolled = a.unpolled ++ a.calls happening :=
      begins_happen one timely.1
    have still : b.unpolled.length ≤ 1 := by
      have lengths := congrArg List.length step
      have called := length_calls_le_one a happening
      rw [List.length_append, List.length_append] at lengths
      by_cases none : a.calls happening = []
      · rw [none, List.length_nil] at lengths
        omega
      · rw [timely.1 (.inl none), List.length_nil] at lengths
        omega
    calc (a.begins happening ++ b.begun rest) ++ (b.after rest).unpolled
        = a.begins happening ++ (b.unpolled ++ b.called rest) := by
          rw [List.append_assoc, ih still timely.2]
      _ = a.unpolled ++ (a.calls happening ++ b.called rest) := by
          rw [← List.append_assoc, step, List.append_assoc]

end Active

end RemoteCall.Client
