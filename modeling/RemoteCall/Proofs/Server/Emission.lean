import RemoteCall.Proofs.Server.DirectRun

/-!
# Emission without interceptors

Without interceptors a call whose output `Flows` hands exactly what is emitted to its transport,
with the staged headers ahead of the first part. `Call.greeting` and `Call.greeted` are these
headers and the call behind them. A call that has emitted its end emits nothing more.
-/

namespace RemoteCall.Server

variable {σ P Req Resp S : Type}

/-- There was no end, the client is there, and the order filter has seen what the outbound gate
has let through. -/
structure Call.Flows (call : Call σ Req) : Prop where
  ended : call.ended = false
  suppressed : call.suppressed = false
  order : call.order = if call.headersSent then .streaming else .fresh

/-- What goes ahead of the next part. -/
def Call.greeting {α : Type} (call : Call σ Req) : List (ResponsePart α) :=
  if call.headersSent then [] else [.headers call.context.responseHeaders]

/-- The call once its response is opened. -/
def Call.greeted (call : Call σ Req) : Call σ Req :=
  if call.headersSent then call
  else
    { call with
      headersSent := true
      order := .streaming
      sent := call.sent + 1
      context := { call.context with responseHeaders := .empty } }

/-- The call after a message. -/
def Call.written (call : Call σ Req) : Call σ Req :=
  { call.greeted with sent := call.greeted.sent + 1 }

/-- The call after its end. -/
def Call.concluded (call : Call σ Req) : Call σ Req :=
  { call.greeted with
    ended := true
    order := .ended
    sent := call.greeted.sent + 1
    context := { call.greeted.context with trailers := .empty, cancelled := true } }

/-- The pass that hands these parts over and does nothing else. -/
def Pass.handing (before after : Call σ Req) (parts : List (ResponsePart P)) : Pass σ P Req where
  call := after
  ops := parts.map .send
  receipts := (List.range' before.sent parts.length).map .issued

theorem Call.sent_greeted (call : Call σ Req) (parts : List (ResponsePart P)) :
    call.sent + (call.greeting ++ parts).length = call.greeted.sent + parts.length := by
  unfold greeting greeted
  cases call.headersSent with
  | true => rfl
  | false =>
    simp only [Bool.false_eq_true, if_false, List.cons_append, List.nil_append, List.length_cons]
    omega

section Emit

variable {method : Method σ P Req Resp} {call : Call σ Req}

theorem Pass.send_plain (plain : method.chain = .empty) (part : ResponsePart Resp)
    (p : Pass σ P Req) : send method part p = toTransport method part p := by
  unfold send
  rw [plain]
  rfl

theorem Pass.emit_message (plain : method.chain = .empty) (flows : call.Flows) {message : Resp}
    {payload : P} (encodes : method.responses.encode message = .ok payload)
    (flags : MessageFlags) :
    emit method (.message message flags) (.start call) =
      (.ok (), handing call call.written (call.greeting ++ [.message payload flags])) := by
  obtain ⟨ended, suppressed, order⟩ := flows
  cases opened : call.headersSent with
  | true =>
    rw [opened, if_pos rfl] at order
    simp [emit, openResponse, send_plain plain, start, ended, suppressed, opened, toTransport,
      order, ResponseOrder.allow, write, ResponsePart.tryMap, encodes, ResponsePart.isFinish,
      handing, Call.written, Call.greeted, Call.greeting]
  | false =>
    rw [opened, if_neg (by simp)] at order
    simp [emit, openResponse, send_plain plain, start, ended, suppressed, opened, toTransport,
      order, ResponseOrder.allow, write, ResponsePart.tryMap, encodes, ResponsePart.isFinish,
      handing, Call.written, Call.greeted, Call.greeting, mapCall]
    rfl

/-- A message without an encoding opens the response all the same. -/
theorem Pass.emit_unencodable (plain : method.chain = .empty) (flows : call.Flows) {message : Resp}
    {e : CallError} (fails : method.responses.encode message = .error e) (flags : MessageFlags) :
    emit method (.message message flags) (.start call) =
      (.ok (), { handing call call.greeted call.greeting with
        receipts := (handing (P := P) call call.greeted call.greeting).receipts ++
          [.known (.error e)] }) := by
  obtain ⟨ended, suppressed, order⟩ := flows
  cases opened : call.headersSent with
  | true =>
    rw [opened, if_pos rfl] at order
    simp [emit, openResponse, send_plain plain, start, ended, suppressed, opened, toTransport,
      order, ResponseOrder.allow, write, ResponsePart.tryMap, fails, ResponsePart.isFinish,
      handing, Call.greeted, Call.greeting]
    cases call
    cases ended
    cases suppressed
    cases order
    cases opened
    rfl
  | false =>
    rw [opened, if_neg (by simp)] at order
    simp [emit, openResponse, send_plain plain, start, ended, suppressed, opened, toTransport,
      order, ResponseOrder.allow, write, ResponsePart.tryMap, fails, ResponsePart.isFinish,
      handing, Call.greeted, Call.greeting, mapCall]

theorem Pass.finish_plain (plain : method.chain = .empty) (flows : call.Flows) (status : Status) :
    finish method status (.start call) =
      handing call call.concluded
        (call.greeting ++ [.finish status call.context.trailers]) := by
  obtain ⟨ended, suppressed, order⟩ := flows
  cases opened : call.headersSent with
  | true =>
    rw [opened, if_pos rfl] at order
    simp [finish, emit, openResponse, send_plain plain, start, ended, suppressed, opened,
      toTransport, order, ResponseOrder.allow, write, ResponsePart.tryMap, ResponsePart.isFinish,
      handing, Call.concluded, Call.greeted, Call.greeting, mapCall, Call.cancelScope]
  | false =>
    rw [opened, if_neg (by simp)] at order
    simp [finish, emit, openResponse, send_plain plain, start, ended, suppressed, opened,
      toTransport, order, ResponseOrder.allow, write, ResponsePart.tryMap, ResponsePart.isFinish,
      handing, Call.concluded, Call.greeted, Call.greeting, mapCall, Call.cancelScope]
    rfl

/-- The receipts are those of the parts handed over. -/
theorem Pass.issued_handing (before after : Call σ Req) (parts : List (ResponsePart P)) :
    ∀ r ∈ (handing before after parts).receipts,
      ∃ t < before.sent + parts.length, r = .issued t := by
  intro r member
  obtain ⟨t, range, rfl⟩ := List.mem_map.mp member
  obtain ⟨i, below, rfl⟩ := List.mem_range'.mp range
  exact ⟨_, by omega, rfl⟩

/-- A write emits its message with the flags for it. -/
theorem Call.write_eq (method : Method σ P Req Resp) (transport : Bool) (message : Resp)
    (compression : Compression) (call : Call σ Req) :
    call.write method transport message compression =
      let (outcome, p) := Pass.emit method
        (.message message (call.context.flags transport compression)) (.start call)
      (outcome.map fun _ => p.receipts, p) := by
  unfold Call.write Context.flags
  split
  next outcome p emitted =>
    simp only [emitted]
    cases outcome <;> rfl

@[simp] theorem Pass.parts_handing (before after : Call σ Req) (parts : List (ResponsePart P)) :
    (handing before after parts).parts = parts := by
  unfold Pass.parts handing
  rw [List.filterMap_map]
  exact List.filterMap_some

theorem Call.write_plain (plain : method.chain = .empty) (flows : call.Flows) {message : Resp}
    {payload : P} (encodes : method.responses.encode message = .ok payload) (transport : Bool)
    (compression : Compression) :
    ∃ receipts : List Receipt, (∀ r ∈ receipts, ∃ t < call.written.sent, r = .issued t) ∧
      call.write method transport message compression =
        (.ok receipts, .handing call call.written
          (call.greeting ++ [.message payload (call.context.flags transport compression)])) := by
  let part : ResponsePart P := .message payload (call.context.flags transport compression)
  let p : Pass σ P Req := .handing call call.written (call.greeting ++ [part])
  have emitted : Pass.emit method (.message message (call.context.flags transport compression))
      (.start call) = (.ok (), p) := Pass.emit_message plain flows encodes _
  have sent : call.sent + (call.greeting ++ [part]).length = call.written.sent :=
    call.sent_greeted [part]
  refine ⟨p.receipts, ?_, ?_⟩
  · rw [← sent]
    exact Pass.issued_handing call call.written (call.greeting ++ [part])
  · unfold Call.write
    simp only [Context.flags] at emitted
    simp only [emitted]
    rfl

/-- A call that has its end emits nothing more. -/
theorem Pass.finish_of_ended {p : Pass σ P Req} (ended : p.call.ended = true) (status : Status) :
    finish method status p =
      p.mapCall fun call => { call with context := { call.context with trailers := .empty } } := by
  simp [finish, emit, mapCall, ended]

end Emit

end RemoteCall.Server
