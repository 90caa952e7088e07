import RemoteCall.Proofs.Client.Direct
import RemoteCall.Proofs.Client.Termination

/-!
# Cancellation happens once

Everything that can happen to a client call at work is a `Happening`: what its errands, its
watchdog and its application do, the cleanups of forwarders among them, and what the transport
delivers. Over any course of them, and under any chain, the transport is asked to cancel at most
once, exactly when the call has been terminated. From then on nothing that the client does by
itself has any effect. A call whose invocation failed is terminated from its start, without ever
having asked for anything: so it cannot disturb the call that its transport belongs to
(`cancelled_at_most_once`).
-/

namespace RemoteCall.Client

variable {σ P Req Resp : Type}

/-- Nothing that a client does by itself has an effect on a terminated call: no hook runs, and
neither the call nor its transport sees anything. -/
theorem Event.pass_of_terminated (setup : Setup σ P Req Resp) {event : Event P Req}
    (own : event.isOwn = true) {call : Call σ Resp} (gone : call.terminated = true) :
    event.pass setup call = .start call := by
  have terminate : ∀ e, call.terminate setup e = (false, .start call) := by
    intro e
    unfold Call.terminate
    rw [if_pos gone]
  cases event with
  | part p => cases own
  | error e => cases own
  | cancel => exact congrArg Prod.snd (terminate .cancelled)
  | expire =>
    simp only [pass, Call.expire]
    cases call.status? with
    | some status => rfl
    | none => exact congrArg Prod.snd (terminate .deadlineExceeded)
  | send parts =>
    have enqueued : (Pass.enqueue setup parts (.start call)).2 = .start call := by
      cases parts with
      | nil => rfl
      | cons part rest =>
        cases refused : (Pass.start call : Pass σ P Resp).refusal? with
        | some e => rw [(Pass.enqueue_of_refusal refused).1]
        | none =>
          have running := (Pass.refusal?_eq_none_iff.mp refused).2
          exact absurd (running.symm.trans gone) Bool.false_ne_true
    simp only [pass, Call.send]
    split
    · next p h => rwa [h] at enqueued
    · next e p h => rwa [h] at enqueued

theorem OwnPass.of_terminated {setup : Setup σ P Req Resp} {call : Call σ Resp}
    {p : Pass σ P Resp} (own : OwnPass setup call p) (gone : call.terminated = true) :
    p = .start call := by
  cases own with
  | rest => rfl
  | event event own => exact event.pass_of_terminated setup own gone

theorem OwnPass.counts {setup : Setup σ P Req Resp} {call : Call σ Resp} {p : Pass σ P Resp}
    (own : OwnPass setup call p) : p.Counts call.terminated := by
  cases own with
  | rest => exact Pass.counts_start call
  | event event own => exact event.counts_pass setup call

/-- Something that happens to a call at work. -/
inductive Happening (σ P Req Resp : Type) where
  /-- An errand may go on, given how the acceptances stand. -/
  | errand (signals : Nat → Signal) (cancelSignal : Signal)
  /-- The watchdog looks at the time. -/
  | watchdog (now : Nat)
  /-- The call goes away if nobody refers to it any more. -/
  | dissolve (transportHolds : Bool)
  /-- The application starts an errand: a send, a cancellation, a forwarder, a wait. -/
  | engage (errand : Errand (Job Req))
  | poll (id : String)
  /-- The application drops an errand. -/
  | drop (id : String)
  /-- The application sends a batch at once. -/
  | enqueue (parts : List (RequestPart Req))
  /-- The application takes or drops the call, or a handle for sending. -/
  | hold (call sender : Bool)
  /-- The application reads the response stream, or lets go of it. -/
  | stream (f : MessageStream Resp → MessageStream Resp)
  /-- The application changes what it shares with the hooks. -/
  | note (update : σ → σ)
  /-- The transport delivers a part. -/
  | part (part : ResponsePart P)
  /-- The transport fails. -/
  | error (e : CallError)

/-- Whether this is the client's own doing, and not a delivery of the transport. -/
def Happening.isOwn : Happening σ P Req Resp → Bool
  | part _ => false
  | error _ => false
  | _ => true

namespace Active

/-- What happens, and what the transport is asked on that account. -/
def happen (a : Active σ P Req Resp) :
    Happening σ P Req Resp → Active σ P Req Resp × List (TransportOp P)
  | .errand signals cancelSignal => (a.moveErrand? signals cancelSignal).getD (a, [])
  | .watchdog now => (a.expire? now).getD (a, [])
  | .dissolve transportHolds => ((a.dissolve? transportHolds).getD a, [])
  | .engage errand => (a.engage errand, [])
  | .poll id => ({ a with errands := Errand.poll a.errands id }, [])
  | .drop id => (a.drop id, [])
  | .enqueue parts => (a.enqueue parts).2
  | .hold call sender => ({ a with held := call, senderHeld := sender }, [])
  | .stream f => ({ a with call := a.call.mapStream f }, [])
  | .note update => ({ a with call := { a.call with shared := update a.call.shared } }, [])
  | .part part => a.onPart part
  | .error e => a.onError e

/-- The state after a course. -/
def after (a : Active σ P Req Resp) (course : List (Happening σ P Req Resp)) :
    Active σ P Req Resp :=
  course.foldl (fun a happening => (a.happen happening).1) a

/-- What the transport is asked in a course, in order. -/
def asked : List (Happening σ P Req Resp) → Active σ P Req Resp → List (TransportOp P)
  | [], _ => []
  | happening :: rest, a => (a.happen happening).2 ++ asked rest (a.happen happening).1

variable {a : Active σ P Req Resp}

theorem Acts.of_rest {b : Active σ P Req Resp} (setup : b.setup = a.setup)
    (call : b.call = a.call) : a.Acts (b, []) :=
  .pass .rest setup call

theorem Acts.counts {out : Active σ P Req Resp × List (TransportOp P)} (acts : a.Acts out) :
    out.2.countP TransportOp.isCancel + a.call.terminated.toNat =
      out.1.call.terminated.toNat := by
  cases acts with
  | pass own setup call =>
    rw [call]
    exact own.counts
  | poll setup call =>
    rw [call]
    exact Nat.zero_add _

theorem Acts.of_terminated {out : Active σ P Req Resp × List (TransportOp P)} (acts : a.Acts out)
    (gone : a.call.terminated = true) : out.2 = [] ∧ out.1.call.terminated = true := by
  cases acts with
  | pass own setup call =>
    rw [call, own.of_terminated gone]
    exact ⟨rfl, gone⟩
  | poll setup call =>
    rw [call]
    exact ⟨rfl, gone⟩

/-- What a client does by itself is to act on its call, or to change what it shares with the
hooks. -/
theorem acts_happen {happening : Happening σ P Req Resp} (own : happening.isOwn = true) :
    a.Acts (a.happen happening) ∨ ∃ update, happening = .note update := by
  cases happening with
  | part part => cases own
  | error e => cases own
  | note update => exact Or.inr ⟨update, rfl⟩
  | engage errand => exact Or.inl (.of_rest rfl rfl)
  | poll id => exact Or.inl (.of_rest rfl rfl)
  | drop id => exact Or.inl (.of_rest rfl rfl)
  | hold call sender => exact Or.inl (.of_rest rfl rfl)
  | stream f => exact Or.inl (.poll rfl rfl)
  | enqueue parts => exact Or.inl (.pass (.event (.send parts) rfl) rfl rfl)
  | errand signals cancelSignal =>
    simp only [happen]
    cases moved : a.moveErrand? signals cancelSignal with
    | none => exact Or.inl (.of_rest rfl rfl)
    | some out => exact Or.inl (acts_moveErrand? moved)
  | watchdog now =>
    simp only [happen]
    cases moved : a.expire? now with
    | none => exact Or.inl (.of_rest rfl rfl)
    | some out =>
      obtain ⟨setup, call, ops⟩ := expire?_eq moved
      obtain ⟨b, asked⟩ := out
      cases ops
      exact Or.inl (.pass (.event .expire rfl) setup call)
  | dissolve transportHolds =>
    simp only [happen]
    cases moved : a.dissolve? transportHolds with
    | none => exact Or.inl (.of_rest rfl rfl)
    | some b => exact Or.inl (acts_dissolve? moved)

/-- Whatever happens cancels the transport if it terminates the call, and not otherwise. -/
theorem counts_happen (a : Active σ P Req Resp) (happening : Happening σ P Req Resp) :
    (a.happen happening).2.countP TransportOp.isCancel + a.call.terminated.toNat =
      (a.happen happening).1.call.terminated.toNat := by
  by_cases own : happening.isOwn = true
  · rcases acts_happen (a := a) own with acts | ⟨update, rfl⟩
    · exact acts.counts
    · exact Nat.zero_add _
  · cases happening with
    | part part => exact Event.counts_pass a.setup (.part part) a.call
    | error e => exact Event.counts_pass a.setup (.error e) a.call
    | _ => exact absurd rfl own

theorem counts_asked (course : List (Happening σ P Req Resp)) (a : Active σ P Req Resp) :
    (a.asked course).countP TransportOp.isCancel + a.call.terminated.toNat =
      (a.after course).call.terminated.toNat := by
  induction course generalizing a with
  | nil => exact Nat.zero_add _
  | cons happening rest ih =>
    have first := counts_happen a happening
    have later := ih (a.happen happening).1
    rw [asked, List.countP_append]
    show _ = ((a.happen happening).1.after rest).call.terminated.toNat
    omega

/-- A failed invocation terminates the call without cancelling; a start that is admitted cancels
if it terminates the call. -/
theorem counts_start (setup : Setup σ P Req Resp) (shared : σ) (now : Nat)
    (invocation : Result Unit) (request : Option Req) :
    let begun := start setup shared now invocation request
    begun.2.countP TransportOp.isCancel + (!invocation.isOk).toNat =
      begun.1.call.terminated.toNat := by
  cases invocation with
  | error e => rfl
  | ok u =>
    exact Call.counts_send setup (Call.opening setup request) (Call.fresh setup.shape shared)

/-- So a call whose invocation did not fail has cancelled if it is terminated, and not otherwise. -/
theorem counts_course (setup : Setup σ P Req Resp) (shared : σ) (now : Nat)
    (invocation : Result Unit) (request : Option Req) (course : List (Happening σ P Req Resp)) :
    let begun := start setup shared now invocation request
    (begun.2 ++ begun.1.asked course).countP TransportOp.isCancel + (!invocation.isOk).toNat =
      (begun.1.after course).call.terminated.toNat := by
  intro begun
  have opened : begun.2.countP TransportOp.isCancel + (!invocation.isOk).toNat =
      begun.1.call.terminated.toNat := counts_start setup shared now invocation request
  have later := counts_asked course begun.1
  rw [List.countP_append]
  omega

/-- A terminated call asks for nothing by itself, and stays terminated. -/
theorem happen_of_terminated {happening : Happening σ P Req Resp} (own : happening.isOwn = true)
    (gone : a.call.terminated = true) :
    (a.happen happening).2 = [] ∧ (a.happen happening).1.call.terminated = true := by
  rcases acts_happen (a := a) own with acts | ⟨update, rfl⟩
  · exact acts.of_terminated gone
  · exact ⟨rfl, gone⟩

theorem asked_of_terminated {course : List (Happening σ P Req Resp)}
    (own : ∀ happening ∈ course, happening.isOwn = true) (gone : a.call.terminated = true) :
    a.asked course = [] := by
  induction course generalizing a with
  | nil => rfl
  | cons happening rest ih =>
    obtain ⟨first, later⟩ := List.forall_mem_cons.mp own
    obtain ⟨nothing, still⟩ := happen_of_terminated first gone
    rw [asked, nothing, ih later still]
    rfl

theorem cancel_mem_iff {ops : List (TransportOp P)} :
    .cancel ∈ ops ↔ 0 < ops.countP TransportOp.isCancel := by
  rw [List.countP_pos_iff]
  constructor
  · exact fun member => ⟨_, member, rfl⟩
  · rintro ⟨op, member, isCancel⟩
    cases op with
    | send part => cases isCancel
    | cancel => exact member

/-! ### Two calls on one transport call -/

variable {σ' Req' Resp' : Type}

/-- What two calls that share a transport call ask of it, in the order in which things happen. -/
def askedByBoth :
    List (Happening σ P Req Resp ⊕ Happening σ' P Req' Resp') → Active σ P Req Resp →
      Active σ' P Req' Resp' → List (TransportOp P)
  | [], _, _ => []
  | .inl happening :: rest, a, b =>
    (a.happen happening).2 ++ askedByBoth rest (a.happen happening).1 b
  | .inr happening :: rest, a, b =>
    (b.happen happening).2 ++ askedByBoth rest a (b.happen happening).1

/-- A terminated call to which nothing is delivered adds nothing to what the other one asks. -/
theorem askedByBoth_of_terminated
    {mixed : List (Happening σ P Req Resp ⊕ Happening σ' P Req' Resp')}
    {a : Active σ P Req Resp} {b : Active σ' P Req' Resp'} (gone : b.call.terminated = true)
    (own : ∀ happening, .inr happening ∈ mixed → happening.isOwn = true) :
    askedByBoth mixed a b = a.asked (mixed.filterMap Sum.getLeft?) := by
  induction mixed generalizing a b with
  | nil => rfl
  | cons first rest ih =>
    have later : ∀ happening, .inr happening ∈ rest → happening.isOwn = true :=
      fun happening member => own happening (List.mem_cons_of_mem _ member)
    cases first with
    | inl happening =>
      rw [askedByBoth, ih gone later]
      rfl
    | inr happening =>
      obtain ⟨nothing, still⟩ := happen_of_terminated (own happening List.mem_cons_self) gone
      rw [askedByBoth, nothing, ih still later]
      rfl

/-- Over any course, under any chain, a call asks its transport to cancel at most once, and it has
done so exactly when it is terminated. Once it is, cancelling it, letting its deadline pass or
sending runs no hook, whatever the chain, changes nothing and asks for nothing; a cancellation is
done at once. A call whose invocation failed asks for nothing when it starts and never cancels; the
transport does not know it and delivers nothing to it, so it asks for nothing at all, and what
reaches a transport that it shares with another call is what that other call asks. -/
theorem cancelled_at_most_once (setup : Setup σ P Req Resp) (shared : σ) (now : Nat)
    (invocation : Result Unit) (request : Option Req) (course : List (Happening σ P Req Resp)) :
    let begun := start setup shared now invocation request
    let requests := begun.2 ++ begun.1.asked course
    let reached := begun.1.after course
    requests.countP TransportOp.isCancel ≤ 1 ∧
    (invocation = .ok () → (.cancel ∈ requests ↔ reached.call.terminated = true)) ∧
    (reached.call.terminated = true →
      (∀ (chain : Chain σ (RequestPart Req) (ResponsePart Resp)) (event : Event P Req),
        event.isOwn = true →
          event.pass { setup with chain } reached.call = .start reached.call) ∧
      (∀ signals cancelSignal, reached.moveJob? signals cancelSignal .cancel =
        some (.done .cancelled, .start reached.call)) ∧
      ∀ later, (∀ happening ∈ later, happening.isOwn = true) → reached.asked later = []) ∧
    (∀ e, invocation = .error e →
      begun.2 = [] ∧ .cancel ∉ begun.1.asked course ∧
      ((∀ happening ∈ course, happening.isOwn = true) → begun.1.asked course = []) ∧
      ∀ (first : Active σ' P Req' Resp')
        (mixed : List (Happening σ' P Req' Resp' ⊕ Happening σ P Req Resp)),
        (∀ happening, .inr happening ∈ mixed → happening.isOwn = true) →
          askedByBoth mixed first begun.1 = first.asked (mixed.filterMap Sum.getLeft?)) := by
  intro begun requests reached
  have opened : begun.2.countP TransportOp.isCancel + (!invocation.isOk).toNat =
      begun.1.call.terminated.toNat := counts_start setup shared now invocation request
  have later : (begun.1.asked course).countP TransportOp.isCancel + begun.1.call.terminated.toNat =
      reached.call.terminated.toNat := counts_asked course begun.1
  have total : requests.countP TransportOp.isCancel + (!invocation.isOk).toNat =
      reached.call.terminated.toNat := by
    rw [List.countP_append]
    omega
  refine ⟨?_, ?_, ?_, ?_⟩
  · have bound := Bool.toNat_le reached.call.terminated
    omega
  · rintro rfl
    have exact_ : requests.countP TransportOp.isCancel = reached.call.terminated.toNat := total
    rw [cancel_mem_iff, exact_]
    cases reached.call.terminated <;> decide
  · intro gone
    refine ⟨fun chain event own => event.pass_of_terminated _ own gone, ?_,
      fun later own => asked_of_terminated own gone⟩
    intro signals cancelSignal
    simp only [moveJob?, Call.cancel, Call.terminate, gone, if_true, Bool.false_eq_true, if_false]
  · rintro e rfl
    have gone : begun.1.call.terminated = true := rfl
    have never : .cancel ∉ begun.1.asked course := by
      rw [cancel_mem_iff]
      have bound := Bool.toNat_le reached.call.terminated
      rw [gone, Bool.toNat_true] at later
      omega
    exact ⟨rfl, never, fun own => asked_of_terminated own gone,
      fun first mixed own => askedByBoth_of_terminated gone own⟩

end Active

end RemoteCall.Client
