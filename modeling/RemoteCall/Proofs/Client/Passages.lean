import RemoteCall.Proofs.Chain.Relating
import RemoteCall.Proofs.Client.Errands

/-!
# The parts that enter a chain

A batch enters the chain part by part. `Pass.passages` are the parts of a batch that enter, each
with what the transport is asked while it does; nothing of that depends on what was asked before
(`Pass.behind_enter`), which is about two passes side by side (`Pass.IsParallel`). Without hooks
each part asks for its own encoding, if it has one.
-/

namespace RemoteCall.Client

variable {σ P Req Resp : Type}

namespace Pass

variable {setup : Setup σ P Req Resp}

/-- What arrives finds the same in two passes that are related in this way, and what it does to
them keeps them related. -/
structure IsParallel (R : Pass σ P Resp → Pass σ P Resp → Prop) : Prop where
  accumulator : ∀ {p p'}, R p p' → p.call.accumulator = p'.call.accumulator
  order : ∀ {p p'}, R p p' → p.call.order = p'.call.order
  shared : ∀ {p p'}, R p p' → p.call.shared = p'.call.shared
  gather : ∀ {p p'}, R p p' → ∀ accumulator, R { p with call := { p.call with accumulator } }
    { p' with call := { p'.call with accumulator } }
  allow : ∀ {p p'}, R p p' → ∀ order,
    R { p with call := { p.call with order } } { p' with call := { p'.call with order } }
  note : ∀ {p p'}, R p p' → ∀ shared,
    R { p with call := { p.call with shared } } { p' with call := { p'.call with shared } }
  abandon : ∀ {p p'}, R p p' → R p.abandon p'.abandon

namespace IsParallel

variable {R : Pass σ P Resp → Pass σ P Resp → Prop} {p p' : Pass σ P Resp}

theorem accumulate (parallel : IsParallel R) (related : R p p') (part : ResponsePart Resp) :
    R (p.accumulate part) (p'.accumulate part) := by
  have gathered := parallel.gather related (p'.call.accumulator.accept part).1
  unfold Pass.accumulate
  rw [parallel.accumulator related]
  by_cases violated : (p'.call.accumulator.accept part).2 = true
  · simp only [violated, if_true]
    exact parallel.abandon gathered
  · simp only [violated]
    exact gathered

theorem foldl_accumulate (parallel : IsParallel R) (related : R p p')
    (parts : List (ResponsePart Resp)) :
    R (parts.foldl Pass.accumulate p) (parts.foldl Pass.accumulate p') := by
  induction parts generalizing p p' with
  | nil => exact related
  | cons part rest ih => exact ih (parallel.accumulate related part)

theorem deliver (parallel : IsParallel R) (related : R p p') (part : ResponsePart Resp) :
    R (deliver part p) (deliver part p') := by
  have admitted := parallel.allow related (p'.call.order.allow part).2
  have gathered := parallel.foldl_accumulate admitted (p'.call.order.allow part).1
  unfold Pass.deliver
  rw [parallel.order related]
  by_cases finish : (p'.call.order.allow part).1.any ResponsePart.isFinish = true
  · simp only [finish, if_true]
    exact parallel.abandon gathered
  · simp only [finish, Bool.false_eq_true, if_false]
    exact gathered

theorem failWith (parallel : IsParallel R) (related : R p p') (e : CallError) :
    R (failWith e p) (failWith e p') := by
  unfold Pass.failWith Pass.mapAccumulator
  rw [parallel.accumulator related]
  exact parallel.gather related (p'.call.accumulator.fail e)

/-- So the edges of two calls keep passes related, if handing a part over does. -/
theorem relates (parallel : IsParallel R) {setup setup' : Setup σ P Req Resp}
    (hands : ∀ part p p', R p p' → R (toTransport setup part p) (toTransport setup' part p')) :
    (edges setup).Relates R (edges setup') where
  transport := hands
  arrive arrival _ _ related :=
    match arrival with
    | .part part => parallel.deliver related part
    | .failure e => parallel.failWith related e
  note update p p' related := by
    show R { p with call := { p.call with shared := update p.call.shared } } _
    rw [parallel.shared related]
    exact parallel.note related (update p'.call.shared)
  shared _ _ related := parallel.shared related

end IsParallel

/-- A pass is another one behind earlier requests. -/
structure Behind (earlier : List (TransportOp P)) (p p' : Pass σ P Resp) : Prop where
  call : p.call = p'.call
  ops : p.ops = earlier ++ p'.ops

/-- A call does the same in both. -/
theorem Behind.mapCall {earlier : List (TransportOp P)} {p p' : Pass σ P Resp}
    (behind : Behind earlier p p') (f : Call σ Resp → Call σ Resp) :
    Behind earlier { p with call := f p.call } { p' with call := f p'.call } :=
  ⟨congrArg f behind.call, behind.ops⟩

theorem isParallel_behind (earlier : List (TransportOp P)) :
    IsParallel (Behind earlier : Pass σ P Resp → Pass σ P Resp → Prop) where
  accumulator behind := congrArg Call.accumulator behind.call
  order behind := congrArg Call.order behind.call
  shared behind := congrArg Call.shared behind.call
  gather behind accumulator := behind.mapCall fun call => { call with accumulator }
  allow behind order := behind.mapCall fun call => { call with order }
  note behind shared := behind.mapCall fun call => { call with shared }
  abandon := by
    intro p p' behind
    unfold Pass.abandon
    rw [behind.call]
    cases p'.call.terminated with
    | true => exact behind
    | false => exact ⟨rfl, by rw [behind.ops]; exact List.append_assoc ..⟩

theorem Behind.toTransport {earlier : List (TransportOp P)} {p p' : Pass σ P Resp}
    (behind : Behind earlier p p') (part : RequestPart Req) :
    Behind earlier (toTransport setup part p) (toTransport setup part p') := by
  unfold Pass.toTransport
  cases part.tryMap setup.requests.encode with
  | error e => exact ⟨behind.call, behind.ops⟩
  | ok encoded =>
    exact ⟨by rw [behind.call], by rw [behind.ops]; exact List.append_assoc ..⟩

variable (setup) in
/-- Nothing at the edges of a call looks at what was asked before. -/
theorem relates_behind (earlier : List (TransportOp P)) :
    (edges setup).Relates (Behind earlier) (edges setup) :=
  (isParallel_behind earlier).relates fun part _ _ behind => behind.toTransport part

/-- What is asked while a part enters depends on the call only. -/
theorem behind_enter (part : RequestPart Req) (p : Pass σ P Resp) :
    Behind p.ops (enter setup part p) (enter setup part (.start p.call)) := by
  have start : Behind p.ops p (.start p.call) := ⟨rfl, (List.append_nil _).symm⟩
  exact Chain.send_related (relates_behind setup p.ops) setup.path setup.chain part
    (start.mapCall fun call => { call with closed := part.kind == .finish })

/-- The parts of a batch that enter the chain, each with what the transport is asked meanwhile. -/
def passages (setup : Setup σ P Req Resp) :
    List (RequestPart Req) → Call σ Resp → List (RequestPart Req × List (TransportOp P))
  | [], _ => []
  | part :: rest, call =>
    match (Pass.start call : Pass σ P Resp).refusal? with
    | some _ => []
    | none =>
      let p := enter setup part (.start call)
      (part, p.ops) :: passages setup rest p.call

theorem passages_of_free {call : Call σ Resp} (part : RequestPart Req)
    (rest : List (RequestPart Req))
    (free : (Pass.start call : Pass σ P Resp).refusal? = none) :
    passages setup (part :: rest) call =
      (part, (enter setup part (.start call)).ops) ::
        passages setup rest (enter setup part (.start call)).call := by
  rw [passages, free]

theorem passages_of_refusal {call : Call σ Resp} {e : CallError} (parts : List (RequestPart Req))
    (refused : (Pass.start call : Pass σ P Resp).refusal? = some e) :
    passages setup parts call = [] := by
  cases parts with
  | nil => rfl
  | cons part rest => rw [passages, refused]

/-- These are the parts that enter, and together they ask what their batch asks. -/
theorem passages_eq (setup : Setup σ P Req Resp) (parts : List (RequestPart Req))
    (p : Pass σ P Resp) :
    (passages setup parts p.call).map Prod.fst = entered setup parts p ∧
      (enqueue setup parts p).2.ops = p.ops ++ (passages setup parts p.call).flatMap Prod.snd := by
  induction parts generalizing p with
  | nil => exact ⟨rfl, (List.append_nil _).symm⟩
  | cons part rest ih =>
    cases refused : p.refusal? with
    | some e =>
      rw [passages_of_refusal _ refused, entered_of_refusal refused, (enqueue_of_refusal refused).1]
      exact ⟨rfl, (List.append_nil _).symm⟩
    | none =>
      have behind : Behind p.ops (enter setup part p) _ := behind_enter part p
      obtain ⟨parts, ops⟩ := ih (enter setup part p)
      rw [behind.call] at parts ops
      rw [passages_of_free part rest refused, entered_of_free refused, (enqueue_of_free refused).1]
      constructor
      · rw [List.map_cons, parts]
      · rw [ops, behind.ops, List.flatMap_cons, List.append_assoc]

end Pass

/-- What the transport gets for a part if there are no hooks. -/
def Setup.encodings (setup : Setup σ P Req Resp) (part : RequestPart Req) : List (RequestPart P) :=
  (part.tryMap setup.requests.encode).toOption.toList

theorem Pass.ops_enter_direct {setup : Setup σ P Req Resp} (plain : setup.chain = .empty)
    (part : RequestPart Req) (call : Call σ Resp) :
    (enter setup part (.start call)).ops = (setup.encodings part).map .send := by
  unfold enter Pass.send Setup.encodings
  rw [plain, Chain.send_empty]
  simp only [edges, toTransport]
  cases part.tryMap setup.requests.encode <;> rfl

/-- Without hooks, entered parts are handed over encoded. -/
theorem Pass.parts_passages_direct {setup : Setup σ P Req Resp} (plain : setup.chain = .empty)
    (parts : List (RequestPart Req)) (call : Call σ Resp) :
    ((passages setup parts call).flatMap Prod.snd).filterMap TransportOp.part? =
      ((passages setup parts call).map Prod.fst).flatMap setup.encodings := by
  induction parts generalizing call with
  | nil => rfl
  | cons part rest ih =>
    cases refused : (Pass.start call : Pass σ P Resp).refusal? with
    | some e => rw [passages_of_refusal _ refused]; rfl
    | none =>
      have all : ((setup.encodings part).map TransportOp.send).filterMap TransportOp.part? =
          setup.encodings part := by
        rw [List.filterMap_map]
        exact List.filterMap_some
      rw [passages_of_free part rest refused, List.flatMap_cons, List.filterMap_append, ih,
        ops_enter_direct plain, all, List.map_cons, List.flatMap_cons]

namespace Event

/-- The batch that an event sends. -/
def batches : Event P Req → List (List (RequestPart Req))
  | send parts => [parts]
  | _ => []

variable {setup : Setup σ P Req Resp}

/-- A batch enters up to a part that is refused, and then the call takes nothing more. -/
theorem exists_entries_append (setup : Setup σ P Req Resp) (event : Event P Req)
    (call : Call σ Resp) :
    ∃ behind, event.batches.flatten = event.entries setup call ++ behind ∧
      (behind ≠ [] →
        (Pass.start (event.pass setup call).call : Pass σ P Resp).refusal? ≠ none) := by
  cases event with
  | send parts =>
    obtain ⟨behind, split⟩ : Pass.entered setup parts (.start call) <+: parts :=
      Pass.entered_isPrefix parts _
    refine ⟨behind, by rw [batches, List.flatten_singleton]; exact split.symm, fun some => ?_⟩
    simp only [pass, Call.send_eq]
    refine Pass.refusal?_of_entered_ne fun all => some ?_
    rw [all] at split
    exact List.append_right_eq_self.mp split
  | _ => exact ⟨[], rfl, fun some => absurd rfl some⟩

/-- What the parts of an event ask while they enter is all that it asks if it is a send. -/
theorem passages_entries (setup : Setup σ P Req Resp) (event : Event P Req)
    (call : Call σ Resp) :
    let passages := event.batches.flatMap fun parts => Pass.passages setup parts call
    passages.map Prod.fst = event.entries setup call ∧
      (passages.flatMap Prod.snd).Sublist (event.pass setup call).ops := by
  cases event with
  | send parts =>
    obtain ⟨first, ops⟩ := Pass.passages_eq setup parts (.start call)
    simp only [batches, List.flatMap_singleton, pass, Call.send_eq]
    refine ⟨first, ?_⟩
    rw [ops]
    exact List.Sublist.refl _
  | _ => exact ⟨rfl, List.nil_sublist _⟩

/-- Without hooks, the parts that enter are handed over encoded, and no others. -/
theorem parts_pass_direct (plain : setup.chain = .empty) (event : Event P Req)
    (call : Call σ Resp) : (event.pass setup call).ops.filterMap TransportOp.part? =
      (event.entries setup call).flatMap setup.encodings := by
  have quits : ∀ {p : Pass σ P Resp}, p.Quits call → p.ops.filterMap TransportOp.part? = [] := by
    intro p quits
    cases quits with
    | nothing ops => rw [ops]; rfl
    | cancel ops => rw [ops]; rfl
  have terminates : ∀ e, (call.terminate setup e).2.ops.filterMap TransportOp.part? = [] := by
    intro e
    unfold Call.terminate
    split
    · rfl
    · simp only [Pass.fail, Chain.fail]
      rw [Pass.arrive_direct plain]
      rfl
  cases event with
  | send parts =>
    obtain ⟨first, ops⟩ := Pass.passages_eq setup parts (.start call)
    simp only [pass, entries, Call.send_eq]
    rw [ops, ← first]
    exact Pass.parts_passages_direct plain parts call
  | cancel => exact terminates .cancelled
  | expire =>
    simp only [pass, Call.expire]
    cases call.status? with
    | some status => rfl
    | none => exact terminates .deadlineExceeded
  | error e =>
    simp only [pass, Call.onError, Pass.fail, Chain.fail]
    rw [Pass.arrive_direct plain]
    rfl
  | part part =>
    simp only [pass, Call.onPart]
    cases part.tryMap setup.responses.decode with
    | ok decoded =>
      simp only [Pass.receive, Chain.receive]
      rw [Pass.arrive_direct plain]
      exact quits (Pass.quits_deliver decoded call)
    | error e =>
      simp only [Pass.fail, Chain.fail]
      rw [Pass.arrive_direct plain]
      have failed : (Pass.failWith e ((Pass.edges setup).arrive (.failure e) (.start call))).Quits
          call := .nothing rfl rfl rfl
      exact quits failed.abandon

end Event

end RemoteCall.Client
