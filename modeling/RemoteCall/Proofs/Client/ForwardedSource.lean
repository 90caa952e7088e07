import Mathlib.Data.List.Chain
import RemoteCall.Proofs.Client.Forwarding
import RemoteCall.Proofs.Client.Opening
import RemoteCall.Proofs.Client.SendOrder

/-!
# Forwarded sources

A forwarder moves at certain moments of a course (`Active.moments`), and what it does at each of
them is read off the call: the parts that enter the chain, what the transport is asked, and what is
left behind. Through a chain that forwards, at every moment one part of the source enters, once the
part before it was accepted (`Forwarder.Strides`); the last moment is the one at which the
forwarder answers, because all is done or because of the first thing that went wrong
(`Forwarder.Stops`). `Active.forwards_source` puts this together for a forwarder from its start on.
-/

namespace RemoteCall.Client

variable {σ P Req Resp : Type}

/-- How the sender of a part knows its acceptance: by its number among the parts handed over, if it
can be encoded. -/
def Setup.receipt (setup : Setup σ P Req Resp) (call : Call σ Resp) (part : RequestPart Req) :
    Receipt :=
  match part.tryMap setup.requests.encode with
  | .ok _ => .issued call.sent
  | .error e => .known (.error e)

namespace Pass

variable {setup : Setup σ P Req Resp}

theorem receipts_of_noted {p p' : Pass σ P Resp} (noted : (edges setup).Noted p p') :
    p'.receipts = p.receipts := by
  induction noted with
  | refl p => rfl
  | note update later ih => exact ih

/-- A part that is forwarded has one receipt. -/
theorem receipts_enter_forwards (forwards : setup.chain.Forwards) (part : RequestPart Req)
    (call : Call σ Resp) :
    (enter setup part (.start call)).receipts = [setup.receipt call part] := by
  obtain ⟨before, ahead, behind⟩ :
      (edges setup).Hands part _ (enter setup part (.start call)) :=
    forwards.send setup.path part _
  have none : before.receipts = [] := receipts_of_noted ahead
  obtain ⟨-, shared, same⟩ := of_noted ahead
  have sent : before.call.sent = call.sent := by rw [same]; rfl
  rw [receipts_of_noted behind]
  show (toTransport setup part before).receipts = _
  unfold toTransport Setup.receipt
  cases part.tryMap setup.requests.encode with
  | ok encoded => simp only [none, sent, List.nil_append]
  | error e => simp only [none, List.nil_append]

end Pass

/-! ### What a source has to send -/

/-- The parts of a source: the messages before its first failure, and the end behind them if it
ends without one. -/
def Setup.parts (setup : Setup σ P Req Resp) (ends : Bool) :
    List (Result Req) → List (RequestPart Req)
  | [] => if ends then [.finish] else []
  | .ok message :: rest => setup.message message .deferred :: setup.parts ends rest
  | .error _ :: _ => []

/-- The first failure of a source. -/
def firstFailure? : List (Result Req) → Option CallError
  | [] => none
  | .ok _ :: rest => firstFailure? rest
  | .error e :: _ => some e

namespace Forwarder

/-- What a forwarder has still to send. -/
def remaining (setup : Setup σ P Req Resp) (f : Forwarder Req) : List (RequestPart Req) :=
  if f.closing then [] else setup.parts f.ends f.items

/-- The end of the request is sent behind a source that ended. -/
def IsSound (f : Forwarder Req) : Prop := f.closing = true → f.items = [] ∧ f.ends = true

/-- A forwarder lets this part in and goes on as another one. -/
structure Enters (setup : Setup σ P Req Resp) (signals : Nat → Signal) (call : Call σ Resp)
    (f : Forwarder Req) (part : RequestPart Req) (next : Forwarder Req) : Prop where
  accepted : Receipt.awaitAll signals f.awaited = some (.ok ())
  open_ : f.closing = false
  next? : f.next? setup = some (.ok (part, next))
  free : (Pass.start call : Pass σ P Resp).refusal? = none

/-- Why a forwarder stops, and with what answer. -/
inductive Stops (setup : Setup σ P Req Resp) (signals : Nat → Signal) (call : Call σ Resp)
    (f : Forwarder Req) : Result Unit → Prop where
  | finished (accepted : Receipt.awaitAll signals f.awaited = some (.ok ()))
      (closing : f.closing = true) : Stops setup signals call f (.ok ())
  | failed {e : CallError} {rest : List (Result Req)}
      (accepted : Receipt.awaitAll signals f.awaited = some (.ok ()))
      (open_ : f.closing = false) (items : f.items = .error e :: rest) :
      Stops setup signals call f (.error e)
  | refused {part : RequestPart Req} {next : Forwarder Req} {e : CallError}
      (accepted : Receipt.awaitAll signals f.awaited = some (.ok ()))
      (open_ : f.closing = false) (next? : f.next? setup = some (.ok (part, next)))
      (refused : (Pass.start call : Pass σ P Resp).refusal? = some e) :
      Stops setup signals call f (.error e)
  | rejected {e : CallError} (rejected : Receipt.awaitAll signals f.awaited = some (.error e)) :
      Stops setup signals call f (.error e)

variable {setup : Setup σ P Req Resp} {signals : Nat → Signal} {call : Call σ Resp}
  {f next : Forwarder Req} {part : RequestPart Req}

theorem move?_cases {turn : Turn (Forwarder Req) (Result Unit)} {p : Pass σ P Resp}
    (moved : f.move? setup signals call = some (turn, p)) :
    (∃ part next, f.Enters setup signals call part next ∧
      turn = .goesOn { next with awaited := (Pass.enter setup part (.start call)).receipts } ∧
      p = Pass.enter setup part (.start call)) ∨
    ∃ result, f.Stops setup signals call result ∧ turn = .done result ∧ p = .start call := by
  have moves := moves_of_move? moved
  cases accepted : Receipt.awaitAll signals f.awaited with
  | none => simp [move?, accepted] at moved
  | some outcome =>
    cases outcome with
    | error e =>
      simp only [move?, accepted, Option.some.injEq, Prod.mk.injEq] at moved
      exact .inr ⟨_, .rejected accepted, moved.1.symm, moved.2.symm⟩
    | ok u =>
      cases moves with
      | rejected rejected => cases accepted.symm.trans rejected
      | closed closing => exact .inr ⟨_, .finished accepted closing, rfl, rfl⟩
      | failed open_ items => exact .inr ⟨_, .failed accepted open_ items, rfl, rfl⟩
      | refused open_ next? refused =>
        exact .inr ⟨_, .refused accepted open_ next? refused, rfl, rfl⟩
      | sends open_ next? free => exact .inl ⟨_, _, ⟨accepted, open_, next?, free⟩, rfl, rfl⟩

/-- The parts that a forwarder offers and that are let in. -/
theorem Enters.passages (enters : f.Enters setup signals call part next) :
    (f.offers setup signals).flatMap (fun parts => Pass.passages setup parts call) =
      [(part, (Pass.enter setup part (.start call)).ops)] := by
  simp only [offers, enters.accepted, enters.open_, enters.next?, Bool.false_eq_true, if_false,
    List.flatMap_singleton, Pass.passages_of_free part [] enters.free]
  rfl

theorem Stops.passages {result : Result Unit} (stops : f.Stops setup signals call result) :
    (f.offers setup signals).flatMap (fun parts => Pass.passages setup parts call) = [] := by
  cases stops with
  | finished accepted closing => simp only [offers, accepted, closing, if_true, List.flatMap_nil]
  | rejected rejected => simp only [offers, rejected, List.flatMap_nil]
  | failed accepted open_ items =>
    simp only [offers, accepted, open_, next?, items, Bool.false_eq_true, if_false,
      List.flatMap_nil]
  | refused accepted open_ next? refused =>
    simp only [offers, accepted, open_, next?, Bool.false_eq_true, if_false,
      List.flatMap_singleton, Pass.passages_of_refusal _ refused]

/-- What comes next is the first part that remains. -/
theorem remaining_of_next? (open_ : f.closing = false)
    (next? : f.next? setup = some (.ok (part, next))) :
    f.remaining setup = part :: next.remaining setup ∧
      firstFailure? f.items = firstFailure? next.items ∧ next.ends = f.ends ∧ next.IsSound := by
  obtain ⟨e, rest, -, same⟩ | ⟨message, rest, items, same⟩ | ⟨items, ends, same⟩ :=
    next?_cases next?
  · cases same
  · cases same
    refine ⟨?_, by rw [items, firstFailure?], rfl, fun closing => ?_⟩
    · simp only [remaining, open_, items, Setup.parts, Bool.false_eq_true, if_false]
    · cases open_.symm.trans closing
  · cases same
    refine ⟨?_, rfl, rfl, fun _ => ⟨items, ends⟩⟩
    simp only [remaining, open_, items, Setup.parts, ends, Bool.false_eq_true, if_false, if_true]

end Forwarder

/-! ### The moments of a forwarder -/

/-- A state in which an errand may go on, and how the acceptances stand. -/
structure Moment (σ P Req Resp : Type) where
  found : Active σ P Req Resp
  signals : Nat → Signal
  cancelSignal : Signal

namespace Moment

def happening (m : Moment σ P Req Resp) : Happening σ P Req Resp :=
  .errand m.signals m.cancelSignal

/-- What the moment makes of the call. -/
def left (m : Moment σ P Req Resp) : Active σ P Req Resp := (m.found.happen m.happening).1

/-- What the transport is asked. -/
def asked (m : Moment σ P Req Resp) : List (TransportOp P) := (m.found.happen m.happening).2

/-- The parts that enter the chain. -/
def entered (m : Moment σ P Req Resp) : List (RequestPart Req) :=
  (m.found.passes m.happening).map Prod.fst

/-- What the transport answers, as its acceptances stand at another moment, to what entered. -/
def outcome? (m : Moment σ P Req Resp) (signals : Nat → Signal) : Option (Result Unit) :=
  Receipt.awaitAll signals (m.entered.map (m.found.setup.receipt m.found.call))

/-- A forwarder answers and is gone. Nothing else happens, but that a failure leaves a cleanup. -/
def Leaves (m : Moment σ P Req Resp) (id : String) (result : Result Unit) : Prop :=
  m.asked = [] ∧ m.left = { m.found with
    errands := Errand.erase m.found.errands id ++ if result.isOk then [] else [Active.cleanup]
    finished := m.found.finished ++ [(id, .sent result)] }

end Moment

namespace Active

/-- The moves of the errands of a name. -/
def moments (id : String) (a : Active σ P Req Resp) :
    Happening σ P Req Resp → List (Moment σ P Req Resp)
  | .errand signals cancelSignal =>
    if (Errand.next? (a.moveJob? signals cancelSignal) a.errands).any (·.2.1.isNamed id) then
      [⟨a, signals, cancelSignal⟩]
    else []
  | _ => []

end Active

/-- Whether the application starts an errand of a name. -/
def Happening.reuses (id : String) : Happening σ P Req Resp → Bool
  | engage other => other.isNamed id
  | _ => false

theorem Happening.undisturbed_or_drop {id : String} {happening : Happening σ P Req Resp}
    (fresh : happening.reuses id = false) :
    happening.disturbs id = false ∨ happening = .drop id := by
  cases happening with
  | engage other => exact .inl fresh
  | drop other =>
    by_cases this : other = id
    · exact .inr (congrArg drop this)
    · exact .inl (beq_false_of_ne this)
  | _ => exact .inl rfl

namespace Active

variable {a : Active σ P Req Resp} {id : String}

/-- What enters through the errand that moves is what its job hands over and is let in. -/
theorem passes_of_next? {signals : Nat → Signal} {cancelSignal : Signal}
    {before behind : List (Errand (Job Req))} {errand : Errand (Job Req)}
    {turn : Turn (Job Req) (Answer Resp)} {p : Pass σ P Resp}
    (found : Errand.next? (a.moveJob? signals cancelSignal) a.errands =
      some (before, errand, (turn, p), behind)) :
    a.passes (.errand signals cancelSignal) =
      (errand.job.batches ++ errand.job.offers a.setup signals).flatMap
        fun parts => Pass.passages a.setup parts a.call := by
  have mover : a.mover signals cancelSignal = [errand.job] := by rw [mover, found]; rfl
  rw [passes, hands, mover, List.flatMap_singleton]

/-- What a happening makes of a forwarder on its way. -/
inductive Treads (a : Active σ P Req Resp) (id : String) (polled : Bool) (f : Forwarder Req)
    (b : Active σ P Req Resp) : Happening σ P Req Resp → Prop where
  | stays {happening : Happening σ P Req Resp} (still : a.moments id happening = [])
      (unpolled : happening ≠ .poll id)
      (here : Errand.under b.errands id = [⟨some id, polled, .forward f⟩])
      (answers : b.answers id = a.answers id) : Treads a id polled f b happening
  | polled (here : Errand.under b.errands id = [⟨some id, true, .forward f⟩])
      (answers : b.answers id = a.answers id) : Treads a id polled f b (.poll id)
  | dropped (here : Errand.under b.errands id = []) (answers : b.answers id = a.answers id) :
      Treads a id polled f b (.drop id)
  | enters {signals : Nat → Signal} {cancelSignal : Signal} {part : RequestPart Req}
      {next : Forwarder Req}
      (moves : a.moments id (.errand signals cancelSignal) = [⟨a, signals, cancelSignal⟩])
      (begun : polled = true) (enters : f.Enters a.setup signals a.call part next)
      (entered : (a.passes (.errand signals cancelSignal)).map Prod.fst = [part])
      (asked : (a.happen (.errand signals cancelSignal)).2 =
        (Pass.enter a.setup part (.start a.call)).ops)
      (here : Errand.under b.errands id = [⟨some id, true, .forward { next with
        awaited := (Pass.enter a.setup part (.start a.call)).receipts }⟩])
      (answers : b.answers id = a.answers id) :
      Treads a id polled f b (.errand signals cancelSignal)
  | stops {signals : Nat → Signal} {cancelSignal : Signal} {result : Result Unit}
      (moves : a.moments id (.errand signals cancelSignal) = [⟨a, signals, cancelSignal⟩])
      (stops : f.Stops a.setup signals a.call result)
      (entered : a.passes (.errand signals cancelSignal) = [])
      (leaves : Moment.Leaves ⟨a, signals, cancelSignal⟩ id result) :
      Treads a id polled f b (.errand signals cancelSignal)

/-- An errand that goes on stays where it is. -/
theorem happen_of_goesOn {signals : Nat → Signal} {cancelSignal : Signal}
    {before behind : List (Errand (Job Req))} {errand : Errand (Job Req)} {job : Job Req}
    {p : Pass σ P Resp}
    (found : Errand.next? (a.moveJob? signals cancelSignal) a.errands =
      some (before, errand, (.goesOn job, p), behind)) :
    a.happen (.errand signals cancelSignal) =
      ({ a with call := p.call, errands := before ++ { errand with job } :: behind }, p.ops) := by
  simp only [happen, moveErrand?, found, settle, Option.getD_some]

/-- An errand that is done is gone. -/
theorem happen_of_done {signals : Nat → Signal} {cancelSignal : Signal}
    {before behind : List (Errand (Job Req))} {errand : Errand (Job Req)} {answer : Answer Resp}
    {p : Pass σ P Resp}
    (found : Errand.next? (a.moveJob? signals cancelSignal) a.errands =
      some (before, errand, (.done answer, p), behind)) :
    a.happen (.errand signals cancelSignal) =
      ({ a with
        call := p.call
        errands := before ++ behind ++
          if errand.job.isGuarded && answer.isFailure then [cleanup] else []
        finished := a.finished ++ (errand.id.map fun id => (id, answer)).toList }, p.ops) := by
  obtain ⟨name, begun, job⟩ := errand
  simp only [happen, moveErrand?, found, settle, Option.getD_some]
  cases name with
  | none => simp only [Option.map_none, Option.toList_none, List.append_nil]
  | some name => rfl

/-- While another errand moves, a forwarder stays as it is. -/
theorem treads_of_other {polled : Bool} {f : Forwarder Req} {signals : Nat → Signal}
    {cancelSignal : Signal} {before behind : List (Errand (Job Req))} {errand : Errand (Job Req)}
    {turn : Turn (Job Req) (Answer Resp)} {p : Pass σ P Resp}
    (one : Errand.under a.errands id = [⟨some id, polled, .forward f⟩])
    (found : Errand.next? (a.moveJob? signals cancelSignal) a.errands =
      some (before, errand, (turn, p), behind))
    (unnamed : errand.isNamed id = false) :
    a.Treads id polled f (a.happen (.errand signals cancelSignal)).1
      (.errand signals cancelSignal) := by
  have still : a.moments id (.errand signals cancelSignal) = [] := by
    simp [moments, found, unnamed]
  rw [(eq_append_of_pickFirst? found).1, Errand.under_append, Errand.under_cons, unnamed,
    if_neg Bool.false_ne_true] at one
  cases turn with
  | goesOn job =>
    have kept : ({ errand with job } : Errand (Job Req)).isNamed id = false := unnamed
    rw [happen_of_goesOn found]
    refine .stays still nofun ?_ rfl
    rw [Errand.under_append, Errand.under_cons, kept, if_neg Bool.false_ne_true, one]
  | done answer =>
    have cleanups : ∀ left : Bool, Errand.under
        (if left then [(cleanup : Errand (Job Req))] else []) id = [] := by
      intro left
      cases left <;> rfl
    rw [happen_of_done found]
    refine .stays still nofun ?_ ?_
    · rw [Errand.under_append, Errand.under_append, cleanups, List.append_nil, one]
    · refine (Errand.answers_concat id a.finished errand answer).trans ?_
      rw [unnamed, if_neg Bool.false_ne_true, List.append_nil]
      rfl

/-- When it moves itself, a forwarder lets a part in, or it is done. -/
theorem treads_of_own {polled : Bool} {f : Forwarder Req} {signals : Nat → Signal}
    {cancelSignal : Signal} {before behind : List (Errand (Job Req))} {errand : Errand (Job Req)}
    {turn : Turn (Job Req) (Answer Resp)} {p : Pass σ P Resp}
    (one : Errand.under a.errands id = [⟨some id, polled, .forward f⟩])
    (found : Errand.next? (a.moveJob? signals cancelSignal) a.errands =
      some (before, errand, (turn, p), behind))
    (named : errand.isNamed id = true) :
    a.Treads id polled f (a.happen (.errand signals cancelSignal)).1
      (.errand signals cancelSignal) := by
  have moves : a.moments id (.errand signals cancelSignal) = [⟨a, signals, cancelSignal⟩] := by
    simp [moments, found, named]
  have passes := passes_of_next? found
  obtain ⟨errands, went⟩ := eq_append_of_pickFirst? found
  obtain ⟨begun, moved⟩ := Option.ite_none_right_eq_some.mp went
  rw [errands, Errand.under_append, Errand.under_cons, if_pos named] at one
  obtain ⟨front, rfl, back⟩ := eq_of_singleton one.symm
  obtain rfl : polled = true := begun
  obtain ⟨⟨turn, p⟩, went, same⟩ := Option.map_eq_some_iff.mp moved
  cases same
  obtain ⟨part, next, enters, rfl, rfl⟩ | ⟨result, stops, rfl, rfl⟩ := Forwarder.move?_cases went
  · have out := happen_of_goesOn found
    refine .enters moves rfl enters ?_ (by rw [out]) ?_ (by rw [out]; rfl)
    · rw [passes]
      exact congrArg (List.map Prod.fst) enters.passages
    · rw [out, Errand.under_append, front, Errand.under_cons, back]
      exact if_pos named
  · have out := happen_of_done found
    refine .stops moves stops (passes.trans stops.passages) ⟨congrArg Prod.snd out, ?_⟩
    have others : Errand.erase a.errands id = before ++ behind := by
      rw [errands, Errand.erase_append, Errand.erase_cons, if_pos named,
        Errand.erase_of_vacant front, Errand.erase_of_vacant back]
    rw [others]
    refine (congrArg Prod.fst out).trans ?_
    cases result <;> rfl

theorem under_drop_self (a : Active σ P Req Resp) (id : String) :
    Errand.under (a.drop id).errands id = [] := by
  rw [drop_eq, Errand.under_append, Errand.under_erase_self, under_leftBehind]
  rfl

/-- Whatever happens, a forwarder stays, is polled or dropped, lets a part in or stops. -/
theorem treads_happen {polled : Bool} {f : Forwarder Req}
    (one : Errand.under a.errands id = [⟨some id, polled, .forward f⟩])
    {happening : Happening σ P Req Resp} (fresh : happening.reuses id = false) :
    a.Treads id polled f (a.happen happening).1 happening := by
  obtain undisturbed | rfl := Happening.undisturbed_or_drop fresh
  · by_cases moves : ∃ signals cancelSignal, happening = .errand signals cancelSignal
    · obtain ⟨signals, cancelSignal, rfl⟩ := moves
      cases found : Errand.next? (a.moveJob? signals cancelSignal) a.errands with
      | none =>
        have nothing : a.happen (.errand signals cancelSignal) = (a, []) := by
          simp only [happen, moveErrand?, found, Option.getD_none]
        rw [nothing]
        exact .stays (by simp [moments, found]) (by simp) one rfl
      | some picked =>
        obtain ⟨before, errand, ⟨turn, p⟩, behind⟩ := picked
        cases named : errand.isNamed id with
        | false => exact treads_of_other one found named
        | true => exact treads_of_own one found named
    · have still : a.moments id happening = [] := by
        cases happening with
        | errand signals cancelSignal => exact absurd ⟨signals, cancelSignal, rfl⟩ moves
        | _ => rfl
      cases progress_happen a undisturbed with
      | stays unpolled others here answers => exact .stays still unpolled (here.trans one) answers
      | polled here answers => exact .polled (by rw [here, one]; rfl) answers
      | goesOn => exact absurd ⟨_, _, rfl⟩ moves
      | done => exact absurd ⟨_, _, rfl⟩ moves
  · exact .dropped (under_drop_self a id) rfl

end Active

/-! ### From one moment to the next -/

/-- A part of a source is let in: it enters, and the transport is asked for it, if it can be
encoded. -/
structure Moment.Carries (setup : Setup σ P Req Resp) (m : Moment σ P Req Resp)
    (part : RequestPart Req) : Prop where
  same : m.found.setup = setup
  entered : m.entered = [part]
  asked : m.asked = (setup.encodings part).map .send

/-- From one moment to the next, what entered before was accepted. -/
def Accepted (moments : List (Moment σ P Req Resp)) : Prop :=
  moments.IsChain fun m m' => m.outcome? m'.signals = some (.ok ())

namespace Forwarder

/-- A forwarder lets a part in at each of these moments and becomes another one. -/
inductive Strides (setup : Setup σ P Req Resp) :
    Forwarder Req → List (Moment σ P Req Resp) → Forwarder Req → Prop where
  | refl (f : Forwarder Req) : Strides setup f [] f
  | cons {f next g : Forwarder Req} {part : RequestPart Req} {m : Moment σ P Req Resp}
      {later : List (Moment σ P Req Resp)}
      (enters : f.Enters setup m.signals m.found.call part next) (carries : m.Carries setup part)
      (rest : Strides setup { next with awaited := [setup.receipt m.found.call part] } later g) :
      Strides setup f (m :: later) g

namespace Strides

variable {setup : Setup σ P Req Resp} {f g : Forwarder Req} {moments : List (Moment σ P Req Resp)}

theorem carries (strides : Strides setup f moments g) :
    ∀ m ∈ moments, ∃ part, m.Carries setup part := by
  induction strides with
  | refl f => exact fun m member => absurd member List.not_mem_nil
  | cons enters carries rest ih => exact List.forall_mem_cons.mpr ⟨⟨_, carries⟩, ih⟩

/-- What has entered and what remains is what remained at first. -/
theorem remaining (strides : Strides setup f moments g) (sound : f.IsSound) :
    f.remaining setup = moments.flatMap Moment.entered ++ g.remaining setup ∧
      firstFailure? f.items = firstFailure? g.items ∧ g.ends = f.ends ∧ g.IsSound := by
  induction strides with
  | refl f => exact ⟨rfl, rfl, rfl, sound⟩
  | cons enters carries rest ih =>
    obtain ⟨first, failure, ends, sound⟩ := remaining_of_next? enters.open_ enters.next?
    obtain ⟨later, failure', ends', sound'⟩ := ih sound
    refine ⟨?_, failure.trans failure', ends'.trans ends, sound'⟩
    rw [first, List.flatMap_cons, carries.entered, List.append_assoc, ← later]
    rfl

/-- What is awaited at last is the acceptance of the part that entered last. -/
theorem awaited (strides : Strides setup f moments g) :
    moments = [] ∧ g.awaited = f.awaited ∨
      ∃ before m, moments = before ++ [m] ∧
        ∀ signals, Receipt.awaitAll signals g.awaited = m.outcome? signals := by
  induction strides with
  | refl f => exact .inl ⟨rfl, rfl⟩
  | @cons f next g part m later enters carries rest ih =>
    refine .inr ?_
    obtain ⟨none, same⟩ | ⟨before, last, split, same⟩ := ih
    · refine ⟨[], m, by rw [none]; rfl, fun signals => ?_⟩
      rw [same, Moment.outcome?, carries.entered, carries.same]
      rfl
    · exact ⟨m :: before, last, by rw [split]; rfl, same⟩

/-- Each part enters once the part before it was accepted, and the first one once that was accepted
which was awaited before. -/
theorem accepted (strides : Strides setup f moments g) {behind : List (Moment σ P Req Resp)}
    (links : ∀ m ∈ behind.head?, Receipt.awaitAll m.signals g.awaited = some (.ok ()))
    (accepted : Accepted behind) :
    Accepted (moments ++ behind) ∧ ∀ m ∈ (moments ++ behind).head?,
      Receipt.awaitAll m.signals f.awaited = some (.ok ()) := by
  induction strides with
  | refl f => exact ⟨accepted, links⟩
  | @cons f next g part m later enters carries rest ih =>
    -- What the next moment finds accepted is the part that has entered at this one.
    obtain ⟨chain, first⟩ := ih links
    constructor
    · refine List.isChain_cons.mpr ⟨fun m' member => ?_, chain⟩
      rw [Moment.outcome?, carries.entered, carries.same]
      exact first m' member
    · intro m' member
      rw [← Option.some.inj member]
      exact enters.accepted

end Strides

end Forwarder

namespace Active

variable {a : Active σ P Req Resp} {id : String}

theorem along_cons {α : Type} (f : Active σ P Req Resp → Happening σ P Req Resp → List α)
    (happening : Happening σ P Req Resp) (rest : List (Happening σ P Req Resp)) :
    along f (happening :: rest) a = f a happening ++ along f rest (a.happen happening).1 := rfl

theorem moments_of_vacant (vacant : Errand.under a.errands id = [])
    (happening : Happening σ P Req Resp) : a.moments id happening = [] := by
  cases happening with
  | errand signals cancelSignal =>
    cases found : Errand.next? (a.moveJob? signals cancelSignal) a.errands with
    | none => simp [moments, found]
    | some picked =>
      obtain ⟨before, errand, moved, behind⟩ := picked
      have member : errand ∈ a.errands := (eq_append_of_pickFirst? found).1 ▸ by simp
      have unnamed := List.filter_eq_nil_iff.mp vacant errand member
      simp [moments, found, unnamed]
  | _ => rfl

/-- Where nobody has an errand of a name, nothing moves under it, and nobody answers. -/
theorem silent_after {course : List (Happening σ P Req Resp)}
    (fresh : ∀ happening ∈ course, happening.reuses id = false)
    (vacant : Errand.under a.errands id = []) :
    along (moments id) course a = [] ∧ (a.after course).answers id = a.answers id := by
  induction course generalizing a with
  | nil => exact ⟨rfl, rfl⟩
  | cons happening rest ih =>
    obtain ⟨first, later⟩ := List.forall_mem_cons.mp fresh
    have step : Errand.under (a.happen happening).1.errands id = [] ∧
        (a.happen happening).1.answers id = a.answers id := by
      obtain undisturbed | rfl := Happening.undisturbed_or_drop first
      · exact vacant_after (List.forall_mem_singleton.mpr undisturbed) vacant
      · exact ⟨under_drop_self a id, rfl⟩
    obtain ⟨silent, answers⟩ := ih later step.1
    exact ⟨by rw [along_cons, moments_of_vacant vacant, silent]; rfl, answers.trans step.2⟩

/-- How far a forwarder comes in a course. -/
inductive Reaches (a : Active σ P Req Resp) (id : String) (polled : Bool) (f : Forwarder Req)
    (course : List (Happening σ P Req Resp)) : Prop where
  | underway {g : Forwarder Req} {polled' : Bool}
      (strides : f.Strides a.setup (along (moments id) course a) g)
      (here : Errand.under (a.after course).errands id = [⟨some id, polled', .forward g⟩])
      (polls : polled' = true ↔ polled = true ∨ .poll id ∈ course)
      (answers : (a.after course).answers id = a.answers id) : Reaches a id polled f course
  | dropped {g : Forwarder Req} (strides : f.Strides a.setup (along (moments id) course a) g)
      (drops : .drop id ∈ course) (answers : (a.after course).answers id = a.answers id) :
      Reaches a id polled f course
  | stopped {g : Forwarder Req} {sends : List (Moment σ P Req Resp)} {last : Moment σ P Req Resp}
      {result : Result Unit} (strides : f.Strides a.setup sends g)
      (moments : along (moments id) course a = sends ++ [last])
      (stops : g.Stops a.setup last.signals last.found.call result)
      (entered : last.entered = []) (leaves : last.Leaves id result)
      (answers : (a.after course).answers id = a.answers id ++ [.sent result])
      (abandoned : result.isOk = false → (a.after course).Abandoned) : Reaches a id polled f course

/-- What a forwarder reaches from the next state on, it reaches from here. -/
theorem Reaches.cons {happening : Happening σ P Req Resp} {rest : List (Happening σ P Req Resp)}
    {polled polled' : Bool} {f f' : Forwarder Req}
    (later : (a.happen happening).1.Reaches id polled' f' rest)
    (strides : ∀ {sends : List (Moment σ P Req Resp)} {g : Forwarder Req},
      f'.Strides a.setup sends g → f.Strides a.setup (a.moments id happening ++ sends) g)
    (polls : polled' = true ↔ polled = true ∨ happening = .poll id)
    (answers : (a.happen happening).1.answers id = a.answers id) :
    a.Reaches id polled f (happening :: rest) := by
  have setup := setup_happen a happening
  cases later with
  | underway strides' here polls' answers' =>
    rw [setup] at strides'
    refine .underway (strides strides') here (polls'.trans ?_) (answers'.trans answers)
    rw [polls, List.mem_cons, or_assoc, eq_comm (a := happening)]
  | dropped strides' drops answers' =>
    rw [setup] at strides'
    exact .dropped (strides strides') (List.mem_cons_of_mem _ drops) (answers'.trans answers)
  | @stopped g sends last result strides' moments stops entered leaves answers' abandoned =>
    rw [setup] at strides' stops
    refine .stopped (strides strides') ?_ stops entered leaves ?_ abandoned
    · rw [along_cons, moments, List.append_assoc]
    · exact answers'.trans (by rw [answers])

theorem vacant_of_leaves {m : Moment σ P Req Resp} {result : Result Unit}
    (leaves : m.Leaves id result) :
    Errand.under m.left.errands id = [] ∧
      m.left.answers id = m.found.answers id ++ [.sent result] := by
  rw [leaves.2]
  constructor
  · rw [Errand.under_append, Errand.under_erase_self]
    cases result <;> rfl
  · simp [answers, Errand.answers, List.filterMap_append]

/-- A failure leaves the call to a cleanup. -/
theorem abandoned_of_leaves {m : Moment σ P Req Resp} {result : Result Unit}
    (leaves : m.Leaves id result) (failed : result.isOk = false) : m.left.Abandoned := by
  refine .inr ?_
  rw [leaves.2, failed]
  exact List.mem_append_right _ (List.mem_singleton_self _)

/-- What a forwarder does next depends only on what is left of it, so every course takes it from
one moment to the next until it answers or is dropped. -/
theorem reaches_after (forwards : a.setup.chain.Forwards) {polled : Bool} {f : Forwarder Req}
    (one : Errand.under a.errands id = [⟨some id, polled, .forward f⟩])
    {course : List (Happening σ P Req Resp)}
    (fresh : ∀ happening ∈ course, happening.reuses id = false) :
    a.Reaches id polled f course := by
  induction course generalizing a polled f with
  | nil => exact .underway (.refl f) one (by simp) rfl
  | cons happening rest ih =>
    obtain ⟨first, later⟩ := List.forall_mem_cons.mp fresh
    have forwards' : (a.happen happening).1.setup.chain.Forwards :=
      (setup_happen a happening).symm ▸ forwards
    have treads := treads_happen one first
    cases treads with
    | stays still unpolled here answers =>
      refine (ih forwards' here later).cons (fun strides => ?_) (by simp [unpolled]) answers
      rwa [still]
    | polled here answers =>
      exact (ih forwards' here later).cons (fun strides => strides) (by simp) answers
    | dropped here answers =>
      -- Nobody is left who could move, so the rest of the course adds no moment.
      obtain ⟨silent, unanswered⟩ := silent_after later here
      have start : f.Strides a.setup (along (moments id) (.drop id :: rest) a) f := by
        rw [along_cons, silent]
        exact .refl f
      exact .dropped start List.mem_cons_self (unanswered.trans answers)
    | @enters signals cancelSignal part next moves begun enters entered asked here answers =>
      -- The forwarder now waits for the one receipt of the part that has entered.
      rw [Pass.receipts_enter_forwards forwards part a.call] at here
      have carries : Moment.Carries a.setup ⟨a, signals, cancelSignal⟩ part :=
        ⟨rfl, entered, asked.trans (Pass.enter_forwards forwards part (.start a.call)).1⟩
      refine (ih forwards' here later).cons (fun strides => ?_) (by simp [begun]) answers
      rw [moves]
      exact .cons enters carries strides
    | @stops signals cancelSignal result moves stops entered leaves =>
      obtain ⟨vacant, answered⟩ := vacant_of_leaves leaves
      obtain ⟨silent, unanswered⟩ := silent_after later vacant
      refine .stopped (.refl f) ?_ stops ?_ leaves (unanswered.trans answered) fun failed => ?_
      · rw [along_cons, moves, List.nil_append]
        exact congrArg (_ :: ·) silent
      · exact congrArg (List.map Prod.fst) entered
      · exact (abandoned_of_leaves leaves failed).after rest

end Active

/-! ### From its start to its end -/

section

variable (setup : Setup σ P Req Resp) (items : List (Result Req)) (ends : Bool)
  (sends : List (Moment σ P Req Resp))

/-- What a forwarder has sent: at each of these moments one part. -/
structure SourceSent : Prop where
  /-- The parts are those of the source, in order and each once, as far as they have come. -/
  order : sends.flatMap Moment.entered <+: setup.parts ends items
  /-- They are handed to the transport as they are, and nothing else is asked of it. -/
  carried : ∀ m ∈ sends, ∃ part, m.Carries setup part
  /-- Each enters once the transport has accepted the one before it. -/
  accepted : Accepted sends

/-- What a forwarder waits for that cannot move. -/
inductive SourceWaits (signals : Nat → Signal) : Prop where
  | acceptance {before : List (Moment σ P Req Resp)} {m : Moment σ P Req Resp}
      (split : sends = before ++ [m]) (pending : m.outcome? signals = none) :
      SourceWaits signals
  | source (all : sends.flatMap Moment.entered = setup.parts ends items)
      (unfailed : firstFailure? items = none) (silent : ends = false) : SourceWaits signals

/-- What a forwarder answers at its last moment. -/
inductive SourceAnswers (last : Moment σ P Req Resp) : Result Unit → Prop where
  /-- Everything has entered and was accepted. -/
  | success (all : sends.flatMap Moment.entered = setup.parts ends items)
      (unfailed : firstFailure? items = none) (ended : ends = true)
      (accepted : Accepted (sends ++ [last])) : SourceAnswers last (.ok ())
  /-- The source fails, and what came before has entered and was accepted. -/
  | failed {e : CallError} (all : sends.flatMap Moment.entered = setup.parts ends items)
      (failure : firstFailure? items = some e) (accepted : Accepted (sends ++ [last])) :
      SourceAnswers last (.error e)
  /-- The part that comes next is refused, and what came before has entered and was accepted. -/
  | refused {part : RequestPart Req} {rest : List (RequestPart Req)} {e : CallError}
      (next : setup.parts ends items = sends.flatMap Moment.entered ++ part :: rest)
      (accepted : Accepted (sends ++ [last]))
      (refused : (last.found.call.send setup [part]).1 = .error e) : SourceAnswers last (.error e)
  /-- The part that entered last is rejected. -/
  | rejected {before : List (Moment σ P Req Resp)} {m : Moment σ P Req Resp} {e : CallError}
      (split : sends = before ++ [m]) (rejected : m.outcome? last.signals = some (.error e)) :
      SourceAnswers last (.error e)

end

namespace Forwarder.Strides

variable {setup : Setup σ P Req Resp} {items : List (Result Req)} {ends : Bool}
  {sends : List (Moment σ P Req Resp)} {g : Forwarder Req}

theorem parts (strides : Strides setup { items, ends } sends g) :
    setup.parts ends items = sends.flatMap Moment.entered ++ g.remaining setup ∧
      firstFailure? items = firstFailure? g.items ∧ g.ends = ends ∧ g.IsSound :=
  strides.remaining nofun

theorem sent (strides : Strides setup { items, ends } sends g) :
    SourceSent setup items ends sends where
  order := ⟨_, strides.parts.1.symm⟩
  carried := strides.carries
  accepted := by
    have none : ∀ m ∈ ([] : List (Moment σ P Req Resp)).head?,
        Receipt.awaitAll m.signals g.awaited = some (.ok ()) :=
      fun m member => absurd member (Option.not_mem_none m)
    have chain := (strides.accepted none List.isChain_nil).1
    rwa [List.append_nil] at chain

theorem waits (strides : Strides setup { items, ends } sends g) {signals : Nat → Signal}
    {call : Call σ Resp} (rest : g.move? setup signals call = none) :
    SourceWaits setup items ends sends signals := by
  obtain ⟨parts, failure, same, sound⟩ := strides.parts
  obtain pending | ⟨open_, none, silent⟩ := move?_eq_none rest
  · obtain ⟨-, awaited⟩ | ⟨before, m, split, awaited⟩ := strides.awaited
    · rw [awaited] at pending
      cases pending
    · exact .acceptance split ((awaited signals).symm.trans pending)
  · have all : g.remaining setup = [] := by
      simp [Forwarder.remaining, none, Setup.parts, silent]
    rw [all, List.append_nil] at parts
    rw [none] at failure
    exact .source parts.symm failure (same.symm.trans silent)

theorem answers (strides : Strides setup { items, ends } sends g) {last : Moment σ P Req Resp}
    {result : Result Unit} (stops : g.Stops setup last.signals last.found.call result) :
    SourceAnswers setup items ends sends last result := by
  obtain ⟨parts, failure, same, sound⟩ := strides.parts
  have chain : Receipt.awaitAll last.signals g.awaited = some (.ok ()) →
      Accepted (sends ++ [last]) := by
    intro accepted
    refine (strides.accepted (fun m member => ?_) (List.isChain_singleton last)).1
    rwa [← Option.some.inj member]
  cases stops with
  | finished accepted closing =>
    obtain ⟨none, ended⟩ := sound closing
    have all : g.remaining setup = [] := if_pos closing
    rw [all, List.append_nil] at parts
    rw [none] at failure
    exact .success parts.symm failure (same.symm.trans ended) (chain accepted)
  | failed accepted open_ items =>
    have all : g.remaining setup = [] := by
      simp [Forwarder.remaining, open_, items, Setup.parts]
    rw [all, List.append_nil] at parts
    rw [items] at failure
    exact .failed parts.symm failure (chain accepted)
  | refused accepted open_ next? refused =>
    rw [(remaining_of_next? open_ next?).1] at parts
    refine .refused parts (chain accepted) ?_
    rw [Call.send_singleton_of_refusal _ refused]
  | rejected rejected =>
    obtain ⟨-, awaited⟩ | ⟨before, m, split, awaited⟩ := strides.awaited
    · rw [awaited] at rejected
      cases rejected
    · exact .rejected split ((awaited last.signals).symm.trans rejected)

end Forwarder.Strides

namespace Active

/-- A forwarder lets the messages of its source in as they come, up to the first failure, and the
end behind them if the source ends without one; each once the transport has accepted the one before
it. It answers once that is done, and then neither asks the transport for anything more nor leaves
anything behind; or it answers the first thing that goes wrong, and then leaves a cleanup: once no
cleanup waits any more, which is so when nothing can move, the call is terminated and its transport
was asked to cancel, once, or never if the invocation had failed. That holds whatever the source,
the application, the deadline and the transport do. A forwarder that was polled and not dropped
waits for nothing but an acceptance or a silent source. -/
theorem forwards_source (setup : Setup σ P Req Resp) (forwards : setup.chain.Forwards) (shared : σ)
    (now : Nat) (invocation : Result Unit) (request : Option Req)
    (earlier course : List (Happening σ P Req Resp)) (id : String) (polled : Bool)
    (items : List (Result Req)) (ends : Bool) :
    let begun := start setup shared now invocation request
    let called := begun.1.after earlier
    let engaged := called.engage ⟨some id, polled, .forward { items, ends }⟩
    let reached := engaged.after course
    let requests := begun.2 ++ begun.1.asked earlier ++ engaged.asked course
    Errand.under called.errands id = [] →
    (∀ happening ∈ course, happening.reuses id = false) →
      ∃ sends, SourceSent setup items ends sends ∧
        (along (moments id) course engaged = sends ∧ reached.answers id = called.answers id ∧
            (polled = true ∨ .poll id ∈ course → .drop id ∉ course → ∀ signals cancelSignal,
              reached.moveErrand? signals cancelSignal = none →
                SourceWaits setup items ends sends signals) ∨
          ∃ last result, along (moments id) course engaged = sends ++ [last] ∧
            reached.answers id = called.answers id ++ [.sent result] ∧
            SourceAnswers setup items ends sends last result ∧
            last.entered = [] ∧ last.Leaves id result ∧
            (result.isOk = false → cleanup ∉ reached.errands →
              reached.call.terminated = true ∧
                requests.countP TransportOp.isCancel = invocation.isOk.toNat)) ∧
        ∀ signals cancelSignal, reached.moveErrand? signals cancelSignal = none →
          cleanup ∉ reached.errands := by
  intro begun called engaged reached requests vacant fresh
  have setup_eq : engaged.setup = setup := setup_after begun.1 earlier
  have one : Errand.under engaged.errands id = [⟨some id, polled, .forward { items, ends }⟩] := by
    have named : (⟨some id, polled, .forward { items, ends }⟩ : Errand (Job Req)).isNamed id =
        true := beq_self_eq_true _
    simp only [engaged, engage, Errand.under_append, vacant, Errand.under_cons, named, if_true]
    rfl
  have clean : ∀ signals cancelSignal, reached.moveErrand? signals cancelSignal = none →
      cleanup ∉ reached.errands := fun signals cancelSignal rest => cleanup_not_mem_of_rest rest
  have state : begun.1.after (earlier ++ .engage ⟨some id, polled, .forward { items, ends }⟩ ::
      course) = reached := by
    rw [after_append, after_cons]
    rfl
  have requested : begun.2 ++ begun.1.asked (earlier ++
      .engage ⟨some id, polled, .forward { items, ends }⟩ :: course) = requests := by
    rw [asked_append, asked, ← List.append_assoc]
    rfl
  have cancels : reached.call.terminated = true →
      requests.countP TransportOp.isCancel = invocation.isOk.toNat := by
    intro gone
    have counted : requests.countP TransportOp.isCancel + (!invocation.isOk).toNat =
        reached.call.terminated.toNat := by
      rw [← state, ← requested]
      exact counts_course setup shared now invocation request _
    have either : invocation.isOk.toNat + (!invocation.isOk).toNat = 1 := by
      cases invocation.isOk <;> rfl
    rw [gone, Bool.toNat_true] at counted
    omega
  have reaches := reaches_after (setup_eq.symm ▸ forwards) one fresh
  cases reaches with
  | @underway g polled' strides here polls answers =>
    rw [setup_eq] at strides
    refine ⟨_, strides.sent, .inl ⟨rfl, answers, fun wasPolled _ signals cancelSignal rest => ?_⟩,
      clean⟩
    obtain ⟨member, -⟩ := List.mem_filter.mp (here ▸ List.mem_singleton_self _)
    have stuck : reached.moveJob? signals cancelSignal (.forward g) = none :=
      moveJob?_of_rest rest member (polls.mpr wasPolled)
    have rests := Option.map_eq_none_iff.mp stuck
    rw [(setup_after engaged course).trans setup_eq] at rests
    exact strides.waits rests
  | dropped strides drops answers =>
    rw [setup_eq] at strides
    exact ⟨_, strides.sent, .inl ⟨rfl, answers, fun _ kept => absurd drops kept⟩, clean⟩
  | @stopped g sends last result strides moments stops entered leaves answers abandoned =>
    rw [setup_eq] at strides stops
    refine ⟨sends, strides.sent, .inr ⟨last, result, moments, answers, strides.answers stops,
      entered, leaves, fun failed done => ?_⟩, clean⟩
    have gone := (abandoned failed).resolve_right done
    exact ⟨gone, cancels gone⟩

/-- A source that fails behind its first text. -/
def faltering : List (Result String) := [.ok "a", .error (.transport "source lost"), .ok "b"]

/-- The first text of a source that fails is sent and accepted, the failure is answered, and its
cleanup cancels the call. -/
theorem faltering_source_cancels :
    let begun := start recital () 0 (.ok ()) none
    let engaged := begun.1.engage ⟨some "f", true, .forward { items := faltering }⟩
    let course := List.replicate 3 (.errand accepting .waiting)
    let reached := engaged.after course
    ∃ sends last, along (moments "f") course engaged = sends ++ [last] ∧
      SourceAnswers recital faltering true sends last (.error (.transport "source lost")) ∧
      cleanup ∉ reached.errands ∧ reached.call.terminated = true ∧
      (begun.2 ++ engaged.asked course).countP TransportOp.isCancel = 1 := by
  intro begun engaged course reached
  have fresh : ∀ happening ∈ (course : List (Happening Unit String String String)),
      happening.reuses "f" = false := by
    simp [course, Happening.reuses]
  have clean : cleanup ∉ reached.errands := by
    have left : reached.errands = [{ job := .awaitCancel }] := rfl
    rw [left, List.mem_singleton]
    intro same
    cases same
  have answered : reached.answers "f" = [.sent (.error (.transport "source lost"))] := rfl
  obtain ⟨sends, -, fate, -⟩ := forwards_source recital Chain.forwards_empty () 0 (.ok ()) none []
    course "f" true faltering true rfl fresh
  obtain ⟨-, unanswered, -⟩ | ⟨last, result, moments, answers, verdict, -, -, cancels⟩ := fate
  · cases answered.symm.trans unanswered
  · cases answered.symm.trans answers
    obtain ⟨gone, once⟩ := cancels rfl clean
    exact ⟨sends, last, moments, verdict, clean, gone, once⟩

end Active

end RemoteCall.Client
