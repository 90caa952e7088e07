import Mathlib.Data.List.Forall2
import RemoteCall.Client.Active
import RemoteCall.Proofs.Server.Attendance

/-!
# How a client requests

A client without interceptors sends what is left of its request, a `Script`, in batches of any
size, and may wait for their acceptance. As long as the call is not terminated every batch is
taken and handed to the transport in order; after that every batch is refused.
-/

namespace RemoteCall.Client

open Server (Input)

variable {σ P Req Resp : Type}

/-- What is left of a request, and whether that is nothing: the end is the last part. -/
inductive Script : List (RequestPart Req) → (closed : Bool) → Prop where
  | done : Script [] true
  | finish : Script [.finish] false
  | cons {part : RequestPart Req} {rest : List (RequestPart Req)} (more : part.kind ≠ .finish)
      (script : Script rest false) : Script (part :: rest) false

/-- The parts of an input behind the headers are a script. -/
theorem script_input (input : Input Req) : Script input.parts false := by
  cases input with
  | one message flags => exact .cons (by simp [RequestPart.kind]) .finish
  | stream messages =>
    induction messages with
    | nil => exact .finish
    | cons first rest ih => exact .cons (by simp [RequestPart.kind]) ih

theorem Script.tail {part : RequestPart Req} {rest : List (RequestPart Req)} {closed : Bool}
    (script : Script (part :: rest) closed) :
    closed = false ∧ Script rest (part.kind == .finish) := by
  cases script with
  | finish => exact ⟨rfl, .done⟩
  | cons more script =>
    refine ⟨rfl, ?_⟩
    rwa [beq_false_of_ne more]

/-- The codec encodes the messages of these parts. -/
def Setup.Encodes (setup : Setup σ P Req Resp) (parts : List (RequestPart Req)) : Prop :=
  ∀ message flags, RequestPart.message message flags ∈ parts →
    ∃ payload, setup.requests.encode message = .ok payload

def Setup.Encoded (setup : Setup σ P Req Resp) (part : RequestPart Req)
    (payload : RequestPart P) : Prop :=
  part.tryMap setup.requests.encode = .ok payload

variable {setup : Setup σ P Req Resp}

theorem Setup.Encodes.encoded {part : RequestPart Req} {parts : List (RequestPart Req)}
    (encodes : setup.Encodes parts) (member : part ∈ parts) :
    ∃ payload, setup.Encoded part payload := by
  cases part with
  | headers m => exact ⟨_, rfl⟩
  | finish => exact ⟨_, rfl⟩
  | message message flags =>
    obtain ⟨payload, encoded⟩ := encodes message flags member
    exact ⟨.message payload flags, by simp only [encoded, Setup.Encoded, RequestPart.tryMap]⟩

/-- The pass that hands these parts over behind what it has done before. -/
def Pass.handed (p : Pass σ P Resp) (closed : Bool) (payloads : List (RequestPart P)) :
    Pass σ P Resp where
  call := { p.call with closed, sent := p.call.sent + payloads.length }
  ops := p.ops ++ payloads.map .send
  receipts := p.receipts ++ (List.range' p.call.sent payloads.length).map .issued

theorem Pass.handed_handed (p : Pass σ P Resp) (before closed : Bool) (payload : RequestPart P)
    (payloads : List (RequestPart P)) :
    (p.handed before [payload]).handed closed payloads = p.handed closed (payload :: payloads) := by
  unfold handed
  simp only [List.length_cons, List.length_nil, List.map_cons, List.map_nil, List.append_assoc,
    List.cons_append, List.nil_append, List.range'_succ, List.range'_zero]
  congr 2
  omega

theorem Pass.enqueue_cons (part : RequestPart Req) (rest : List (RequestPart Req))
    {p : Pass σ P Resp} (open_ : p.call.closed = false) (running : p.call.terminated = false) :
    enqueue setup (part :: rest) p =
      enqueue setup rest
        (send setup part { p with call := { p.call with closed := part.kind == .finish } }) := by
  rw [enqueue, if_neg (by simp [open_]), if_neg (by simp [running])]

/-- A batch of a script is taken, and handed over in order. -/
theorem Pass.enqueue_plain (plain : setup.chain = .empty) {batch behind : List (RequestPart Req)}
    (encodes : setup.Encodes batch) {p : Pass σ P Resp} (running : p.call.terminated = false)
    (script : Script (batch ++ behind) p.call.closed) :
    ∃ payloads closed, List.Forall₂ setup.Encoded batch payloads ∧ Script behind closed ∧
      enqueue setup batch p = (.ok (), p.handed closed payloads) := by
  induction batch generalizing p with
  | nil =>
    refine ⟨[], p.call.closed, .nil, script, ?_⟩
    simp [enqueue, handed]
  | cons part rest ih =>
    obtain ⟨open_, script⟩ := script.tail
    obtain ⟨payload, encoded⟩ := encodes.encoded List.mem_cons_self
    have handed : send setup part
        { p with call := { p.call with closed := part.kind == .finish } } =
          p.handed (part.kind == .finish) [payload] := by
      unfold Pass.send
      rw [plain, Chain.send_empty]
      unfold Setup.Encoded at encoded
      simp only [edges, toTransport, encoded]
      rfl
    have encodesRest : setup.Encodes rest :=
      fun message flags member => encodes message flags (List.mem_cons_of_mem _ member)
    obtain ⟨payloads, closed, all, behind, enqueued⟩ :=
      ih encodesRest (p := p.handed (part.kind == .finish) [payload]) running script
    refine ⟨payload :: payloads, closed, .cons encoded all, behind, ?_⟩
    rw [enqueue_cons part rest open_ running, handed, enqueued, handed_handed]

/-- After the call was terminated a batch is refused. -/
theorem Pass.enqueue_refused {part : RequestPart Req} {rest : List (RequestPart Req)}
    {p : Pass σ P Resp} (atEnd : p.call.terminated = true) :
    ∃ e, enqueue setup (part :: rest) p = (.error e, p) := by
  unfold enqueue
  cases p.call.closed with
  | true => exact ⟨_, rfl⟩
  | false => exact ⟨.cancelled, by simp [atEnd]⟩

/-! ### The client at work -/

/-- A client that does nothing but wait for the acceptance of these batches. -/
def Setup.active (setup : Setup σ P Req Resp) (call : Call σ Resp)
    (waits : List (Result (List Receipt))) : Active σ P Req Resp where
  setup := setup
  call := call
  errands := waits.map fun batch => { job := .accept batch }

/-- Sends a batch, and waits for its acceptance. -/
def Active.submit (a : Active σ P Req Resp) (parts : List (RequestPart Req)) :
    Active σ P Req Resp × List (TransportOp P) :=
  let (batch, a, ops) := a.enqueue parts
  (a.engage { job := .accept batch }, ops)

theorem Active.submit_active {call : Call σ Resp} {waits : List (Result (List Receipt))}
    {parts : List (RequestPart Req)} {result : Result (List Receipt)} {p : Pass σ P Resp}
    (sent : call.send setup parts = (result, p)) :
    (setup.active call waits).submit parts = (setup.active p.call (waits ++ [result]), p.ops) := by
  unfold submit enqueue
  rw [show (setup.active call waits).call.send (setup.active call waits).setup parts = _ from sent]
  simp [settle, engage, Setup.active]

/-- A wait that is over leaves, and nothing else happens. -/
theorem Active.moveErrand?_active {call : Call σ Resp} {waits : List (Result (List Receipt))}
    {signals : Nat → Signal} {cancelSignal : Signal}
    {out : Active σ P Req Resp × List (TransportOp P)}
    (moved : (setup.active call waits).moveErrand? signals cancelSignal = some out) :
    ∃ before batch behind, waits = before ++ batch :: behind ∧
      out = (setup.active call (before ++ behind), []) := by
  unfold moveErrand? at moved
  cases found : Errand.next? ((setup.active call waits).moveJob? signals cancelSignal)
      (setup.active call waits).errands with
  | none =>
    rw [found] at moved
    cases moved
  | some next =>
    obtain ⟨before, errand, ⟨turn, p⟩, behind⟩ := next
    obtain ⟨split, picked⟩ := eq_append_of_pickFirst? found
    obtain ⟨before', later, rfl, rfl, later_eq⟩ := List.map_eq_append_iff.mp split
    obtain ⟨batch, behind', rfl, rfl, rfl⟩ := List.map_eq_cons_iff.mp later_eq
    refine ⟨before', batch, behind', rfl, ?_⟩
    obtain ⟨-, job⟩ := Option.ite_none_right_eq_some.mp picked
    rw [found] at moved
    have done : ∃ result, turn = .done (.sent result) ∧ p = .start call := by
      cases batch with
      | error e =>
        cases job
        exact ⟨_, rfl, rfl⟩
      | ok receipts =>
        obtain ⟨result, -, h⟩ := Option.map_eq_some_iff.mp job
        cases h
        exact ⟨_, rfl, rfl⟩
    obtain ⟨result, rfl, rfl⟩ := done
    cases moved
    simp [Setup.active, Pass.start, Job.isGuarded]

/-- A wait whose parts are all accepted is over. -/
theorem Active.isSome_moveErrand?_active {call : Call σ Resp}
    {waits : List (Result (List Receipt))} {signals : Nat → Signal} {cancelSignal : Signal}
    {batch : Result (List Receipt)} (member : batch ∈ waits)
    (atEnd : ∀ receipts, batch = .ok receipts → (Receipt.awaitAll signals receipts).isSome = true) :
    ((setup.active call waits).moveErrand? signals cancelSignal).isSome = true := by
  cases found : Errand.next? ((setup.active call waits).moveJob? signals cancelSignal)
      (setup.active call waits).errands with
  | some next =>
    obtain ⟨before, errand, ⟨turn, p⟩, behind⟩ := next
    unfold moveErrand?
    rw [found]
    cases turn <;> rfl
  | none =>
    have errand : ({ job := .accept batch } : Errand (Job Req)) ∈
        (setup.active call waits).errands := List.mem_map.mpr ⟨batch, member, rfl⟩
    have stuck := pickFirst?_eq_none_iff.mp found _ errand
    rw [if_pos rfl] at stuck
    cases batch with
    | error e => cases stuck
    | ok receipts =>
      have waits := Option.map_eq_none_iff.mp stuck
      have ready := atEnd receipts rfl
      rw [waits] at ready
      cases ready

end RemoteCall.Client
