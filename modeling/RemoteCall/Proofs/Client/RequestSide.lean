import RemoteCall.Proofs.Client.Termination

/-!
# The request side of a client call

What enters the chain of a call is `Call.entries`. It is in the order of a request, whatever is
sent from wherever and whatever happens in between: the opening and nothing else for a single
request, and headers, messages and at most one end for a stream. `requests_in_order` says of every
batch how far it comes and why the rest is refused (`Fares`): after the end has entered, with the
error for that; otherwise with a cancellation, if something ended the call, be it a hook in the
middle of the same batch.
-/

namespace RemoteCall.Client

variable {σ P Req Resp : Type}

/-- A request stream so far: messages, and at most one end behind them. -/
inductive Feed : List (RequestPart Req) → Prop where
  | nil : Feed []
  | finish : Feed [.finish]
  | message (message : Req) (flags : MessageFlags) {rest : List (RequestPart Req)}
      (feed : Feed rest) : Feed (.message message flags :: rest)

theorem Feed.append {first second : List (RequestPart Req)} (feed : Feed first)
    (closes : .finish ∈ first → second = []) (more : Feed second) : Feed (first ++ second) := by
  induction feed with
  | nil => exact more
  | finish =>
    rw [closes List.mem_cons_self]
    exact .finish
  | message m flags feed ih =>
    exact .message m flags (ih fun h => closes (List.mem_cons_of_mem _ h))

/-- How the rest of a batch fares once `first` has entered: `closed` and `ended` tell whether the
end has entered by then, and whether the call has been ended. What is refused does not enter, and
neither does anything behind it. -/
inductive Fares (closed ended : List (RequestPart Req) → Prop) :
    (first rest entered : List (RequestPart Req)) → Result (List Receipt) → Prop where
  | done {first : List (RequestPart Req)} (receipts : List Receipt) :
      Fares closed ended first [] [] (.ok receipts)
  | late {first rest : List (RequestPart Req)} {part : RequestPart Req} (gone : closed first) :
      Fares closed ended first (part :: rest) [] (.error .streamAlreadyClosed)
  | stopped {first rest : List (RequestPart Req)} {part : RequestPart Req} (open_ : ¬closed first)
      (gone : ended first) : Fares closed ended first (part :: rest) [] (.error .cancelled)
  | enters {first rest entered : List (RequestPart Req)} {part : RequestPart Req}
      {result : Result (List Receipt)} (open_ : ¬closed first) (running : ¬ended first)
      (later : Fares closed ended (first ++ [part]) rest entered result) :
      Fares closed ended first (part :: rest) (part :: entered) result

namespace Pass

variable {setup : Setup σ P Req Resp}

/-! ### What a batch lets in -/

/-- The parts of a batch that enter the chain: those ahead of the first one refused. -/
def entered (setup : Setup σ P Req Resp) :
    List (RequestPart Req) → Pass σ P Resp → List (RequestPart Req)
  | [], _ => []
  | part :: rest, p =>
    match p.refusal? with
    | some _ => []
    | none => part :: entered setup rest (enter setup part p)

/-- Parts enter the chain one by one. -/
def enterAll (setup : Setup σ P Req Resp) (parts : List (RequestPart Req)) (p : Pass σ P Resp) :
    Pass σ P Resp :=
  parts.foldl (fun p part => enter setup part p) p

theorem entered_of_refusal {part : RequestPart Req} {rest : List (RequestPart Req)}
    {p : Pass σ P Resp} {e : CallError} (refused : p.refusal? = some e) :
    entered setup (part :: rest) p = [] := by
  rw [entered, refused]

theorem entered_of_free {part : RequestPart Req} {rest : List (RequestPart Req)}
    {p : Pass σ P Resp} (free : p.refusal? = none) :
    entered setup (part :: rest) p = part :: entered setup rest (enter setup part p) := by
  rw [entered, free]

theorem entered_isPrefix (parts : List (RequestPart Req)) (p : Pass σ P Resp) :
    entered setup parts p <+: parts := by
  induction parts generalizing p with
  | nil => exact List.prefix_rfl
  | cons part rest ih =>
    cases refused : p.refusal? with
    | some e =>
      rw [entered_of_refusal refused]
      exact List.nil_prefix
    | none =>
      rw [entered_of_free refused]
      exact (List.prefix_cons_inj part).mpr (ih _)

/-- If all of a first batch enters, the rest of a batch goes on from there. -/
theorem entered_append {first : List (RequestPart Req)} (second : List (RequestPart Req))
    {p : Pass σ P Resp} (all : entered setup first p = first) :
    entered setup (first ++ second) p = first ++ entered setup second (enterAll setup first p) := by
  induction first generalizing p with
  | nil => rfl
  | cons part rest ih =>
    cases refused : p.refusal? with
    | some e =>
      rw [entered_of_refusal refused] at all
      cases all
    | none =>
      rw [entered_of_free refused, List.cons.injEq] at all
      rw [List.cons_append, entered_of_free refused, ih all.2]
      rfl

/-- Enqueueing a batch is letting in what enters. -/
theorem enqueue_snd (parts : List (RequestPart Req)) (p : Pass σ P Resp) :
    (enqueue setup parts p).2 = enterAll setup (entered setup parts p) p := by
  induction parts generalizing p with
  | nil => rfl
  | cons part rest ih =>
    cases refused : p.refusal? with
    | some e =>
      rw [(enqueue_of_refusal refused).1, entered_of_refusal refused]
      rfl
    | none =>
      rw [(enqueue_of_free refused).1, entered_of_free refused, ih]
      rfl

/-- A batch that does not enter as a whole leaves the call so that nothing more enters. -/
theorem refusal?_of_entered_ne {parts : List (RequestPart Req)} {p : Pass σ P Resp}
    (some_ : entered setup parts p ≠ parts) : (enqueue setup parts p).2.refusal? ≠ none := by
  induction parts generalizing p with
  | nil => exact absurd rfl some_
  | cons part rest ih =>
    cases refused : p.refusal? with
    | some e =>
      rw [(enqueue_of_refusal refused).1]
      simp [refused]
    | none =>
      rw [(enqueue_of_free refused).1]
      apply ih
      intro all
      rw [entered_of_free refused, all] at some_
      exact some_ rfl

/-! ### The chain leaves the request side alone -/

theorem closedFlag_abandon (p : Pass σ P Resp) : p.abandon.call.closed = p.call.closed := by
  unfold abandon
  cases h : p.call.terminated <;> simp

theorem closedFlag_accumulate (part : ResponsePart Resp) (p : Pass σ P Resp) :
    (p.accumulate part).call.closed = p.call.closed := by
  unfold accumulate
  by_cases violated : (p.call.accumulator.accept part).2 = true
  · simp only [violated, if_true, closedFlag_abandon]
  · simp only [violated]
    rfl

theorem closedFlag_foldl_accumulate (parts : List (ResponsePart Resp)) (p : Pass σ P Resp) :
    (parts.foldl accumulate p).call.closed = p.call.closed := by
  induction parts generalizing p with
  | nil => rfl
  | cons part rest ih => rw [List.foldl_cons, ih, closedFlag_accumulate]

theorem closedFlag_act (action : EdgeAction σ (RequestPart Req) (ResponsePart Resp))
    (p : Pass σ P Resp) : ((edges setup).act action p).call.closed = p.call.closed := by
  cases action with
  | note update => rfl
  | transport part =>
    show (toTransport setup part p).call.closed = _
    unfold toTransport
    cases part.tryMap setup.requests.encode <;> rfl
  | arrive arrival =>
    cases arrival with
    | failure e => rfl
    | part part =>
      show (deliver part p).call.closed = _
      unfold deliver
      by_cases finish : (p.call.order.allow part).1.any ResponsePart.isFinish = true
      · simp only [finish, if_true, closedFlag_abandon, closedFlag_foldl_accumulate]
      · simp only [finish, Bool.false_eq_true, if_false, closedFlag_foldl_accumulate]

theorem closedFlag_arrive (arrival : Arrival (ResponsePart Resp)) (p : Pass σ P Resp) :
    (setup.chain.arrive (edges setup) setup.path arrival p).call.closed = p.call.closed := by
  have step : ∀ action (w : Pass σ P Resp), w.call.closed = p.call.closed →
      ((edges setup).act action w).call.closed = p.call.closed :=
    fun action w kept => (closedFlag_act action w).trans kept
  exact Chain.arrive_keeps step setup.chain setup.path arrival rfl

theorem closedFlag_enter (part : RequestPart Req) (p : Pass σ P Resp) :
    (enter setup part p).call.closed = (part.kind == .finish) := by
  have step : ∀ action (w : Pass σ P Resp), w.call.closed = (part.kind == .finish) →
      ((edges setup).act action w).call.closed = (part.kind == .finish) :=
    fun action w kept => (closedFlag_act action w).trans kept
  unfold enter
  exact Chain.send_keeps step setup.chain setup.path part rfl

theorem beq_finish_iff {part : RequestPart Req} :
    (part.kind == .finish) = true ↔ part = .finish := by
  cases part <;> simp [RequestPart.kind]

/-- The request side is closed once the end has entered. -/
theorem closedFlag_enqueue (parts : List (RequestPart Req)) (p : Pass σ P Resp) :
    (enqueue setup parts p).2.call.closed = true ↔
      p.call.closed = true ∨ .finish ∈ entered setup parts p := by
  induction parts generalizing p with
  | nil => simp [enqueue, entered]
  | cons part rest ih =>
    cases refused : p.refusal? with
    | some e => simp [(enqueue_of_refusal refused).1, entered_of_refusal refused]
    | none =>
      have open_ := (refusal?_eq_none_iff.mp refused).1
      rw [(enqueue_of_free refused).1, entered_of_free refused, ih, closedFlag_enter,
        beq_finish_iff, List.mem_cons, open_]
      simp [eq_comm]

/-- Without headers, what a batch lets in is a feed. -/
theorem feed_entered {parts : List (RequestPart Req)} (p : Pass σ P Resp)
    (bodies : ∀ part ∈ parts, part.kind ≠ .metadata) : Feed (entered setup parts p) := by
  induction parts generalizing p with
  | nil => exact .nil
  | cons part rest ih =>
    obtain ⟨body, others⟩ := List.forall_mem_cons.mp bodies
    cases refused : p.refusal? with
    | some e =>
      rw [entered_of_refusal refused]
      exact .nil
    | none =>
      rw [entered_of_free refused]
      cases part with
      | headers m => exact absurd rfl body
      | message m flags => exact .message m flags (ih _ others)
      | finish =>
        -- Behind the end nothing enters.
        have shut : (enter setup .finish p).call.closed = true := closedFlag_enter .finish p
        have nothing : entered setup rest (enter setup .finish p) = [] := by
          cases rest with
          | nil => rfl
          | cons next rest =>
            refine entered_of_refusal (e := .streamAlreadyClosed) ?_
            rw [refusal?, if_pos shut]
        rw [nothing]
        exact .finish

/-! ### How a batch fares -/

/-- A batch fares as the two flags of the call say at each of its parts. -/
theorem fares_enqueue {closed ended : List (RequestPart Req) → Prop} {start : Pass σ P Resp}
    (sees : ∀ first, entered setup first start = first →
      ((enterAll setup first start).call.closed = true ↔ closed first) ∧
      ((enterAll setup first start).call.terminated = true ↔ ended first))
    {first : List (RequestPart Req)} (all : entered setup first start = first)
    (rest : List (RequestPart Req)) :
    let p := enterAll setup first start
    Fares closed ended first rest (entered setup rest p)
      ((enqueue setup rest p).1.map fun _ => (enqueue setup rest p).2.receipts) := by
  induction rest generalizing first with
  | nil => exact .done _
  | cons part rest ih =>
    intro p
    obtain ⟨closes, ends⟩ := sees first all
    by_cases shut : p.call.closed = true
    · have refused : p.refusal? = some .streamAlreadyClosed := by rw [refusal?, if_pos shut]
      rw [(enqueue_of_refusal refused).1, entered_of_refusal refused]
      exact .late (closes.mp shut)
    · by_cases stopped : p.call.terminated = true
      · have refused : p.refusal? = some .cancelled := by
          rw [refusal?, if_neg shut, if_pos stopped]
        rw [(enqueue_of_refusal refused).1, entered_of_refusal refused]
        exact .stopped (mt closes.mpr shut) (ends.mp stopped)
      · have free : p.refusal? = none := by rw [refusal?, if_neg shut, if_neg stopped]
        rw [(enqueue_of_free free).1, entered_of_free free]
        have grown : entered setup (first ++ [part]) start = first ++ [part] := by
          rw [entered_append [part] all, entered_of_free free]
          rfl
        have next : enterAll setup (first ++ [part]) start = enter setup part p := by
          unfold enterAll
          rw [List.foldl_append]
          rfl
        have later := ih grown
        rw [next] at later
        exact .enters (mt closes.mpr shut) (mt ends.mpr stopped) later

end Pass

/-- What a send does and what it answers. -/
theorem Call.send_eq (setup : Setup σ P Req Resp) (parts : List (RequestPart Req))
    (call : Call σ Resp) :
    let enqueued := Pass.enqueue setup parts (.start call)
    call.send setup parts = (enqueued.1.map fun _ => enqueued.2.receipts, enqueued.2) := by
  intro enqueued
  unfold send
  split
  · next p h => simp [enqueued, h, Except.map]
  · next e p h => simp [enqueued, h, Except.map]

/-! ### Runs -/

namespace Event

/-- The parts that enter the chain while an event is handled. -/
def entries (setup : Setup σ P Req Resp) :
    Event P Req → Call σ Resp → List (RequestPart Req)
  | send parts, call => Pass.entered setup parts (.start call)
  | _, _ => []

/-- The request side is closed by the end, and by nothing else. -/
theorem closedFlag_pass (setup : Setup σ P Req Resp) (event : Event P Req)
    (call : Call σ Resp) :
    (event.pass setup call).call.closed = true ↔
      call.closed = true ∨ .finish ∈ event.entries setup call := by
  have terminated : ∀ e, (call.terminate setup e).2.call.closed = call.closed := by
    intro e
    unfold Call.terminate
    by_cases h : call.terminated = true
    · rw [if_pos h]
      rfl
    · rw [if_neg h]
      exact Pass.closedFlag_arrive (.failure e) (.start { call with terminated := true })
  cases event with
  | send parts =>
    simp only [pass, Call.send_eq]
    exact Pass.closedFlag_enqueue parts (.start call)
  | cancel => simp [pass, Call.cancel, terminated, entries]
  | error e =>
    rw [show ((Event.error e : Event P Req).pass setup call).call.closed = call.closed from
      Pass.closedFlag_arrive (.failure e) (.start call)]
    simp [entries]
  | expire =>
    cases status : call.status? with
    | none => simp [pass, Call.expire, status, terminated, entries]
    | some s => simp [pass, Call.expire, status, Pass.start, entries]
  | part p =>
    have kept : ((Event.part p : Event P Req).pass setup call).call.closed = call.closed := by
      simp only [pass, Call.onPart]
      cases p.tryMap setup.responses.decode with
      | ok part => exact Pass.closedFlag_arrive (.part part) (.start call)
      | error e =>
        exact (Pass.closedFlag_abandon _).trans
          (Pass.closedFlag_arrive (.failure e) (.start call))
    simp [kept, entries]

end Event

namespace Call

/-- The parts that enter the chain in a move. -/
def moveEntries (setup : Setup σ P Req Resp) (call : Call σ Resp) :
    Move P Req → List (RequestPart Req)
  | .event event => event.entries setup call
  | _ => []

/-- The parts that enter the chain in a run. -/
def entries (setup : Setup σ P Req Resp) :
    List (Move P Req) → Call σ Resp → List (RequestPart Req)
  | [], _ => []
  | move :: rest, call => call.moveEntries setup move ++ entries setup rest (call.move setup move)

theorem entries_append (setup : Setup σ P Req Resp) (first second : List (Move P Req))
    (call : Call σ Resp) :
    call.entries setup (first ++ second) =
      call.entries setup first ++ (call.run setup first).entries setup second := by
  induction first generalizing call with
  | nil => rfl
  | cons move rest ih => rw [List.cons_append, entries, entries, ih, List.append_assoc, run_cons]

theorem closedFlag_move (setup : Setup σ P Req Resp) (move : Move P Req) (call : Call σ Resp) :
    (call.move setup move).closed = true ↔
      call.closed = true ∨ .finish ∈ call.moveEntries setup move := by
  cases move with
  | event event => exact Event.closedFlag_pass setup event call
  | pull => simp [Call.move, pull_snd, mapStream, moveEntries]
  | next => simp [Call.move, next_snd, mapStream, moveEntries]

/-- The request side is closed once the end has entered. -/
theorem closedFlag_run (setup : Setup σ P Req Resp) (moves : List (Move P Req))
    (call : Call σ Resp) :
    (call.run setup moves).closed = true ↔
      call.closed = true ∨ .finish ∈ call.entries setup moves := by
  induction moves generalizing call with
  | nil => simp [entries]
  | cons move rest ih => rw [run_cons, ih, closedFlag_move, entries, List.mem_append, or_assoc]

/-- Nothing more enters a call whose request side is closed or that is terminated. -/
theorem entries_of_refusal (setup : Setup σ P Req Resp) (moves : List (Move P Req))
    {call : Call σ Resp} (refused : (Pass.start call : Pass σ P Resp).refusal? ≠ none) :
    call.entries setup moves = [] := by
  induction moves generalizing call with
  | nil => rfl
  | cons move rest ih =>
    have nothing : call.moveEntries setup move = [] := by
      cases move with
      | pull => rfl
      | next => rfl
      | event event =>
        cases event with
        | send parts =>
          obtain ⟨e, refused⟩ := Option.ne_none_iff_exists'.mp refused
          cases parts with
          | nil => rfl
          | cons part parts => exact Pass.entered_of_refusal refused
        | _ => rfl
    have still : (Pass.start (call.move setup move) : Pass σ P Resp).refusal? ≠ none := by
      intro free
      obtain ⟨open_, running⟩ := Pass.refusal?_eq_none_iff.mp free
      apply refused
      refine Pass.refusal?_eq_none_iff.mpr ⟨Bool.eq_false_iff.mpr fun closed => ?_,
        Bool.eq_false_iff.mpr fun terminated => ?_⟩
      · have shut := (closedFlag_move setup move call).mpr (Or.inl closed)
        exact Bool.false_ne_true (open_.symm.trans shut)
      · have stopped := (terminated_move setup move call).mpr (Or.inl terminated)
        exact Bool.false_ne_true (running.symm.trans stopped)
    rw [entries, nothing, ih still]
    rfl

/-- Without further headers, what enters in a run is a feed. -/
theorem feed_entries (setup : Setup σ P Req Resp) {moves : List (Move P Req)}
    (bodies : ∀ parts, .event (.send parts) ∈ moves → ∀ part ∈ parts, part.kind ≠ .metadata)
    (call : Call σ Resp) : Feed (call.entries setup moves) := by
  induction moves generalizing call with
  | nil => exact .nil
  | cons move rest ih =>
    have later := ih (fun parts member => bodies parts (List.mem_cons_of_mem _ member))
      (call.move setup move)
    have now : Feed (call.moveEntries setup move) := by
      cases move with
      | pull => exact .nil
      | next => exact .nil
      | event event =>
        cases event with
        | send parts => exact Pass.feed_entered _ (bodies parts List.mem_cons_self)
        | _ => exact .nil
    refine now.append (fun finish => entries_of_refusal setup rest ?_) later
    have shut := (closedFlag_move setup move call).mpr (Or.inr finish)
    intro free
    have open_ := (Pass.refusal?_eq_none_iff.mp free).1
    exact Bool.false_ne_true (open_.symm.trans shut)

/-- A send fares as the history of the call says. -/
theorem fares_send (setup : Setup σ P Req Resp) {start : Call σ Resp} (open_ : start.closed = false)
    (running : start.terminated = false) (before : List (Move P Req))
    (parts : List (RequestPart Req)) :
    let call := start.run setup before
    Fares (fun first => .finish ∈ start.entries setup before ++ first)
      (fun first => start.EndedBy setup (before ++ [.event (.send first)])) [] parts
      (Pass.entered setup parts (.start call)) (call.send setup parts).1 := by
  intro call
  rw [send_eq]
  have nothing : Pass.entered setup [] (Pass.start call) = [] := rfl
  refine Pass.fares_enqueue (fun first all => ?_) nothing parts
  have reached : Pass.enterAll setup first (.start call) = (call.send setup first).2 := by
    rw [send_eq, Pass.enqueue_snd, all]
  have state : start.run setup (before ++ [.event (.send first)]) =
      (call.send setup first).2.call := run_append setup before _ start
  have entered : start.entries setup (before ++ [.event (.send first)]) =
      start.entries setup before ++ first := by
    rw [entries_append]
    show _ ++ (Pass.entered setup first (.start call) ++ []) = _
    rw [all, List.append_nil]
  rw [reached, ← state, closedFlag_run, terminated_run_iff, entered, open_, running]
  simp

/-- What enters the chain of a call is a request in order, and every batch fares as the history
says, the opening included. A single request is sent by its opening, which enters up to the point
where something ends the call. A stream enters with its headers, then messages and at most one
end, if nobody sends headers again. Where the invocation failed, nothing enters and every part is
refused. -/
theorem requests_in_order (setup : Setup σ P Req Resp) (shared : σ) (request : Option Req)
    (moves : List (Move P Req))
    (bodies : request = none →
      ∀ parts, .event (.send parts) ∈ moves → ∀ part ∈ parts, part.kind ≠ .metadata) :
    let start : Call σ Resp := fresh setup.shape shared
    let history := fromOpening setup request moves
    let headers := .headers setup.options.requestHeaders
    (∀ message, request = some message → start.entries setup history <+:
      [headers, .message message (.compressed setup.options.compress), .finish]) ∧
    (request = none → ∃ body, start.entries setup history = headers :: body ∧ Feed body) ∧
    (∀ before parts after, history = before ++ .event (.send parts) :: after →
      let call := start.run setup before
      let entered := Pass.entered setup parts (.start call)
      start.entries setup (before ++ [.event (.send parts)]) =
        start.entries setup before ++ entered ∧
      (call.send setup parts).2 = Pass.enterAll setup entered (.start call) ∧
      Fares (fun first => .finish ∈ start.entries setup before ++ first)
        (fun first => start.EndedBy setup (before ++ [.event (.send first)])) [] parts entered
        (call.send setup parts).1) ∧
    (∀ e, let failed := begin setup shared (.error e) request
      failed.entries setup moves = [] ∧
      ∀ part rest, (failed.run setup moves).send setup (part :: rest) =
        (.error .cancelled, .start (failed.run setup moves))) := by
  intro start history headers
  refine ⟨?_, ?_, ?_, ?_⟩
  · rintro message rfl
    have opened : start.entries setup history =
        Pass.entered setup (opening setup (some message)) (.start start) := by
      show Pass.entered setup (opening setup (some message)) (.start start) ++
        entries setup moves (start.send setup (opening setup (some message))).2.call = _
      rw [entries_of_refusal setup moves, List.append_nil]
      rw [send_eq]
      by_cases all : Pass.entered setup (opening setup (some message)) (.start start) =
          opening setup (some message)
      · -- All of the opening has entered, the end included.
        intro free
        have finish :
            .finish ∈ Pass.entered setup (opening setup (some message)) (.start start) := by
          rw [all]
          simp [opening]
        have shut : (Pass.enqueue setup (opening setup (some message))
            (.start start)).2.call.closed = true :=
          (Pass.closedFlag_enqueue _ _).mpr (Or.inr finish)
        exact Bool.false_ne_true ((Pass.refusal?_eq_none_iff.mp free).1.symm.trans shut)
      · exact Pass.refusal?_of_entered_ne all
    rw [opened]
    exact Pass.entered_isPrefix _ _
  · rintro rfl
    exact ⟨_, rfl, feed_entries setup (bodies rfl) _⟩
  · intro before parts after _ call entered
    refine ⟨?_, ?_, fares_send setup rfl rfl before parts⟩
    · rw [entries_append]
      exact congrArg _ (List.append_nil _)
    · rw [send_eq]
      exact Pass.enqueue_snd parts (.start call)
  · intro e failed
    have nothing : failed.entries setup moves = [] := entries_of_refusal setup moves nofun
    have open_ : (failed.run setup moves).closed = false := by
      rw [Bool.eq_false_iff, Ne, closedFlag_run, nothing]
      simp [failed, begin, Call.start, fresh, Pass.failWith, Pass.mapAccumulator, Pass.start]
    have stopped : (failed.run setup moves).terminated = true := terminated_run setup moves rfl
    refine ⟨nothing, fun part rest => ?_⟩
    have refused : (Pass.start (failed.run setup moves) : Pass σ P Resp).refusal? =
        some .cancelled := by
      simp [Pass.refusal?, Pass.start, open_, stopped]
    rw [send_eq, (Pass.enqueue_of_refusal refused).1]
    rfl

end Call

/-- A stream of requests behind a hook that answers the first message with the end. -/
def answering : Setup Unit String String String :=
  { greeting with
    shape := .clientStreaming
    chain := { interceptors := [{ outbound := fun _ part =>
      match part with
      | .message _ _ => .send part (.receive (.finish .success .empty) .done)
      | part => .send part .done }] } }

namespace Call

/-- A hook ends the call in the middle of a batch: the first message has entered by then, and the
rest of the batch is refused. -/
theorem hook_ends_batch :
    let batch : List (RequestPart String) := [.message "first" {}, .message "second" {}]
    let moves : List (Move String String) := [.event (.send batch)]
    let start : Call Unit String := fresh answering.shape ()
    let opened : List (Move String String) := fromOpening answering none []
    (∀ parts, .event (.send parts) ∈ moves → ∀ part ∈ parts, part.kind ≠ .metadata) ∧
    start.entries answering (fromOpening answering none moves) =
      [.headers .empty, .message "first" {}] ∧
    (∃ body, start.entries answering (fromOpening answering none moves) =
      .headers .empty :: body ∧ Feed body) ∧
    Fares (fun first => .finish ∈ start.entries answering opened ++ first)
      (fun first => start.EndedBy answering (opened ++ [.event (.send first)])) [] batch
      [.message "first" {}] (.error .cancelled) := by
  intro batch moves start opened
  have bodies : ∀ parts, .event (.send parts) ∈ moves → ∀ part ∈ parts, part.kind ≠ .metadata := by
    intro parts member
    rw [List.mem_singleton] at member
    cases member
    simp [batch, RequestPart.kind]
  obtain ⟨-, feed, fares, -⟩ := requests_in_order answering () none moves fun _ => bodies
  obtain ⟨-, -, fared⟩ := fares opened batch [] rfl
  exact ⟨bodies, rfl, feed rfl, fared⟩

end Call

end RemoteCall.Client
