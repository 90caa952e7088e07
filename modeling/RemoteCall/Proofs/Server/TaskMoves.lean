import Mathlib.Data.List.Forall2
import RemoteCall.Proofs.Server.Attendance

/-!
# The moves of a handler's task

A move of the task goes on with the direct run of the handler. A wish to read or to write takes
several moves: one that makes the wish, and others that look whether the wait is over. Waits are
over with the answers of the direct run, since requests come in order and every part that was
handed over is accepted or still on its way.
-/

namespace RemoteCall.Server

variable {σ P Req Resp S : Type}

/-- Parts go to the transport, and nothing else happens. -/
theorem Serving.settle_handing (s : Serving σ P Req Resp S) (before after : Call σ Req)
    (parts : List (ResponsePart P)) :
    s.settle (.handing before after parts) = ({ s with call := after }, parts) := by
  have task : parts.foldl (fun task _ => task) s.task = s.task := by
    induction parts with
    | nil => rfl
    | cons part rest ih => exact ih
  simp only [settle, Pass.handing, List.foldl_map, List.filterMap_map, task]
  exact congrArg (Prod.mk _) List.filterMap_some

theorem Serving.grant_write {s : Serving σ P Req Resp S} {now : Nat} {message : Resp}
    {compression : Compression} {go : Result Unit → S} {receipts : List Receipt}
    {p : Pass σ P Req}
    (written : s.call.write s.method s.compression message compression = (.ok receipts, p)) :
    s.grant now (.write message compression go) =
      ((s.settle p).1.withTask (.checking (.receipts receipts go)), (s.settle p).2) := by
  simp only [grant, written]

theorem Serving.grant_respond {s : Serving σ P Req Resp S} {now : Nat} {message : Resp}
    {receipts : List Receipt} {p : Pass σ P Req}
    (written : s.call.write s.method s.compression message .deferred = (.ok receipts, p)) :
    s.grant now (.finish (.ok (some message))) =
      ((s.settle p).1.withTask (.checking (.response receipts)), (s.settle p).2) := by
  simp only [grant, written]

theorem Serving.grant_use {s : Serving σ P Req Resp S} {now : Nat} {wish : Wish σ Req Resp S}
    {how : Use σ} {next : S} (uses : wish.use? = some (how, next)) :
    s.grant now wish =
      ({ s with
          call := { s.call with context := how.apply s.call.context }
          task := .awake next }, []) := by
  cases wish with
  | stageHeader name value go => cases uses; rfl
  | stageTrailer name value go => cases uses; rfl
  | allowCompression allowed go => cases uses; rfl
  | note update go => cases uses; rfl
  | pull go => cases uses
  | write message compression go => cases uses
  | observe go => cases uses
  | awaitCancelled go => cases uses
  | sleep milliseconds go => cases uses
  | lend go => cases uses
  | lendStream go => cases uses
  | finish result => cases uses

/-- Receipts of parts that are accepted or still on their way do not fail. -/
theorem awaitAll_of_issued {signals : Nat → Signal} {sent : Nat} {batch : List Receipt}
    (issued : ∀ r ∈ batch, ∃ t < sent, r = .issued t)
    (accepting : ∀ t < sent, signals t = .waiting ∨ signals t = .settled (.ok ()))
    {result : Result Unit} (atEnd : Receipt.awaitAll signals batch = some result) :
    result = .ok () := by
  induction batch with
  | nil =>
    cases atEnd
    rfl
  | cons r rest ih =>
    obtain ⟨t, below, rfl⟩ := issued r List.mem_cons_self
    simp only [Receipt.awaitAll, Receipt.outcome?] at atEnd
    rcases accepting t below with waiting | accepted
    · rw [waiting] at atEnd
      cases atEnd
    · rw [accepted] at atEnd
      exact ih (fun r member => issued r (List.mem_cons_of_mem _ member)) atEnd

/-- Once the parts are accepted, the wait for them is over. -/
theorem awaitAll_of_accepted {signals : Nat → Signal} {sent : Nat} {batch : List Receipt}
    (issued : ∀ r ∈ batch, ∃ t < sent, r = .issued t)
    (accepted : ∀ t < sent, signals t = .settled (.ok ())) :
    Receipt.awaitAll signals batch = some (.ok ()) := by
  induction batch with
  | nil => rfl
  | cons r rest ih =>
    obtain ⟨t, below, rfl⟩ := issued r List.mem_cons_self
    simp only [Receipt.awaitAll, Receipt.outcome?, accepted t below, Signal.outcome?]
    exact ih fun r member => issued r (List.mem_cons_of_mem _ member)

namespace Service

variable {x : Service σ P Req Resp S}

section Faces

variable {call : Call σ Req} {coming : List (RequestPart Req)} {d : Desk σ Req}

theorem Faces.used (faces : x.Faces call coming d) (how : Use σ) :
    x.Faces { call with context := how.apply call.context } coming (d.used how) := by
  obtain ⟨context, calm, opened, ⟨ended, suppressed, order⟩, fed⟩ := faces
  refine ⟨congrArg how.apply context, ?_, opened, ⟨ended, suppressed, order⟩, fed.of_eq rfl rfl⟩
  cases how <;> exact calm

/-- A message opens the response, if it was not opened before. -/
theorem Faces.written (faces : x.Faces call coming d) : x.Faces call.written coming d.answered := by
  obtain ⟨context, calm, opened, ⟨ended, suppressed, order⟩, fed⟩ := faces
  unfold Call.written Call.greeted Desk.answered
  cases before : d.opened with
  | none =>
    rw [before] at opened
    simp only [show call.headersSent = false from opened, Bool.false_eq_true, if_false]
    exact ⟨by rw [← context], calm, rfl, ⟨ended, suppressed, rfl⟩, fed.of_eq rfl rfl⟩
  | some m =>
    rw [before] at opened
    have sent : call.headersSent = true := opened
    simp only [sent, if_true]
    rw [sent] at order
    exact ⟨context, calm, by rw [before]; rfl, ⟨ended, suppressed, order⟩, fed.of_eq rfl rfl⟩

/-- What goes ahead of the next part are the headers of the response. -/
theorem Faces.greeting {α : Type} (faces : x.Faces call coming d) :
    (call.greeting : List (ResponsePart α)) =
      if d.opened.isSome then [] else [.headers d.initial] := by
  unfold Call.greeting Desk.initial
  rw [faces.opened, faces.context]
  cases d.opened <;> rfl

end Faces

/-- The codec of the service encodes the messages of these parts. -/
def Encodes (x : Service σ P Req Resp S) (parts : List (ResponsePart Resp)) : Prop :=
  ∀ message flags, ResponsePart.message message flags ∈ parts →
    ∃ payload, x.method.responses.encode message = .ok payload

def Encoded (x : Service σ P Req Resp S) (part : ResponsePart Resp) (payload : ResponsePart P) :
    Prop :=
  part.tryMap x.method.responses.encode = .ok payload

/-- The served call after a move, and the parts that the move handed over: they and what the
handler saw are taken off the front of what was left, and fewer moves are left. -/
def Continues (x : Service σ P Req Resp S) (sent : Nat) (coming : List (RequestPart Req))
    (future : List (ResponsePart Resp)) (left sights : List (Sight Req)) (effort : Nat)
    (out : Serving σ P Req Resp S × List (ResponsePart P)) : Prop :=
  ∃ call task parts future' left' effort',
    out.1 = x.serving call task ∧ List.Forall₂ x.Encoded parts out.2 ∧
      future = parts ++ future' ∧ left = sights ++ left' ∧ effort' < effort ∧
      call.sent = sent + parts.length ∧ x.Attends call task coming future' left' effort'

section Moves

variable {call : Call σ Req} {coming : List (RequestPart Req)} {d : Desk σ Req}
  {story : Story Req Resp}

/-- A move of the task alone. -/
theorem Continues.silent {call' : Call σ Req} {task : Task Req S}
    {left sights left' : List (Sight Req)} {effort : Nat} (faces : x.Faces call' coming d)
    (sent : call'.sent = call.sent) (seen : left = sights ++ left')
    (less : task.effort story.wishes < effort)
    (tells : x.TaskTells call'.sent task d left' story) :
    x.Continues call.sent coming (story.parts d.opened.isSome) left sights effort
      (x.serving call' task, []) :=
  ⟨call', task, [], _, left', _, rfl, .nil, rfl, seen, less, sent, .begun faces tells⟩

theorem encoded_greeting (call : Call σ Req) :
    List.Forall₂ x.Encoded call.greeting call.greeting := by
  unfold Call.greeting
  cases call.headersSent with
  | true => exact .nil
  | false => exact .cons rfl .nil

/-- A message that is written is handed over behind the headers, and the rest of the story is
left. -/
theorem Continues.write {task : Task Req S} {message : Resp} {payload : P} {flags : MessageFlags}
    (faces : x.Faces call coming d) (encodes : x.method.responses.encode message = .ok payload)
    (initial : story.initial = d.initial) {effort : Nat}
    (less : task.effort story.wishes < effort)
    (tells : x.TaskTells call.written.sent task d.answered story.sights story) :
    x.Continues call.sent coming ((story.afterWrite message flags).parts d.opened.isSome)
      story.sights [] effort
      (x.serving call.written task, call.greeting ++ [.message payload flags]) := by
  refine ⟨call.written, task, call.greeting ++ [.message message flags], story.parts true,
    story.sights, _, rfl, ?_, ?_, rfl, less, ?_, ?_⟩
  · have encoded : x.Encoded (.message message flags) (.message payload flags) := by
      simp only [Encoded, ResponsePart.tryMap, encodes]
    exact List.rel_append (encoded_greeting call) (.cons encoded .nil)
  · rw [Story.parts_afterWrite, initial, ← faces.greeting]
    simp
  · exact (call.sent_greeted [.message message flags]).symm
  · have answered : d.answered.opened.isSome = true := by
      unfold Desk.answered
      cases before : d.opened with
      | none => rfl
      | some m => simp [before]
    rw [← answered]
    exact .begun faces.written tells

/-- What a handler returns with ends the call, and nothing is left. -/
theorem Continues.conclude (faces : x.Faces call coming d) (task : Task Req S) {status : Status}
    {result : Result Unit} {effort : Nat} (less : 0 < effort)
    (ends : call.finish x.method result = .finish x.method status (.start call)) :
    x.Continues call.sent coming ((Story.ending d status : Story Req Resp).parts d.opened.isSome)
      [] [] effort ((x.serving call task).conclude result) := by
  have concluded : (x.serving call task).conclude result =
      (x.serving call.concluded .gone,
        call.greeting ++ [.finish status call.context.trailers]) := by
    unfold Serving.conclude
    rw [show (x.serving call task).call.finish (x.serving call task).method result = _ from ends,
      Pass.finish_plain x.plain faces.flows, Serving.settle_handing]
    rfl
  rw [concluded]
  refine ⟨_, _, call.greeting ++ [.finish status call.context.trailers], [], [], 0, rfl, ?_, ?_,
    rfl, less, ?_, ?_⟩
  · exact List.rel_append (encoded_greeting call) (.cons rfl .nil)
  · rw [Story.parts_ending, faces.greeting, faces.context, List.append_nil]
  · exact (call.sent_greeted [.finish status call.context.trailers]).symm
  · have past : call.concluded.inbound = call.inbound := by
      unfold Call.concluded Call.greeted
      cases call.headersSent <;> rfl
    exact .ended ⟨rfl, by rw [past]; exact faces.fed.isPast⟩

/-- A read that has its answer. -/
theorem resume?_request {call' : Call σ Req} {now : Nat} {signals : Nat → Signal}
    {go : Result (Option Req) → S} {r : Resumption S × Call σ Req}
    (atEnd : (Wait.request go : Wait Req S).resume? now signals call' = some r) :
    ∃ answer, call'.requests.pull.1 = .ready answer ∧
      r = (.state (go answer), { call' with requests := call'.requests.pull.2 }) := by
  unfold Wait.resume? at atEnd
  cases pulled : call'.requests.pull with
  | mk answer requests =>
    rw [pulled] at atEnd
    cases answer with
    | pending => cases atEnd
    | ready answer =>
      cases atEnd
      exact ⟨answer, rfl, rfl⟩

/-- What follows a wait that is over goes on with the story. -/
theorem Continues.resume {now : Nat} {signals : Nat → Signal} {wait : Wait Req S}
    (faces : x.Faces call coming d) (tells : x.WaitTells call.sent wait d story)
    (accepting : ∀ t < call.sent, signals t = .waiting ∨ signals t = .settled (.ok ()))
    {r : Resumption S × Call σ Req} (atEnd : wait.resume? now signals call = some r)
    (task : Task Req S) {effort : Nat} (bound : wait.effort story.wishes ≤ effort) :
    x.Continues call.sent coming (story.parts d.opened.isSome) story.sights (wait.sights call)
      effort ((x.serving call task).resume r) := by
  cases tells with
  | @request go d story streams runs =>
    obtain ⟨answer, pulled, rfl⟩ := resume?_request atEnd
    obtain ⟨context, calm, opened, ⟨ended, suppressed, order⟩, fed⟩ := faces
    rcases fed.pull streams with ⟨pending, -⟩ | ⟨ready, fed⟩
    · rw [pending] at pulled
      cases pulled
    · have same : answer = .ok d.unread.head? := by
        rw [ready] at pulled
        cases pulled
        rfl
      subst same
      have turned : x.Faces { call with requests := call.requests.pull.2 } coming d.turned :=
        ⟨context, calm, opened, ⟨ended, suppressed, order⟩, fed⟩
      have seen : (Wait.request go : Wait Req S).sights call = [.read (.ok d.unread.head?)] := by
        unfold Wait.sights
        rw [ready]
      rw [seen]
      show x.Continues call.sent coming (story.parts d.turned.opened.isSome) _ _ _
        (x.serving { call with requests := call.requests.pull.2 }
          (.awake (go (.ok d.unread.head?))), [])
      have less : 3 * story.wishes + 3 < effort := by
        simp only [Wait.effort, Story.afterRead] at bound
        omega
      exact Continues.silent turned rfl rfl less (.awake runs)
  | @receipts batch go d story issued runs =>
    obtain ⟨result, accepted, rfl⟩ := Option.map_eq_some_iff.mp atEnd
    obtain rfl := awaitAll_of_issued issued accepting accepted
    exact Continues.silent faces rfl rfl (Nat.lt_of_lt_of_le (Nat.lt_succ_self _) bound)
      (.awake runs)
  | @response batch d issued =>
    obtain ⟨result, accepted, rfl⟩ := Option.map_eq_some_iff.mp atEnd
    obtain rfl := awaitAll_of_issued issued accepting accepted
    exact Continues.conclude faces task (Nat.lt_of_lt_of_le (Nat.succ_pos _) bound) rfl

/-- Every wish goes on with the story. -/
theorem Continues.grant {now : Nat} {state : S} (faces : x.Faces call coming d)
    (runs : x.Runs d state story) (encodes : x.Encodes (story.parts d.opened.isSome))
    (task : Task Req S) :
    x.Continues call.sent coming (story.parts d.opened.isSome) story.sights []
      (3 * story.wishes + 3) ((x.serving call task).grant now (x.handler.wish state)) := by
  cases runs with
  | @read d state story go wish streams rest =>
    have readable : (x.serving call task).hasRequests = true := by
      show (x.method.shape.streamsRequests && !false) = true
      rw [streams]
      rfl
    rw [wish]
    simp only [Serving.grant, readable, if_true]
    exact Continues.silent faces rfl rfl (Nat.lt_succ_self _) (.checking (.request streams rest))
  | @readNothing d state story go wish single rest =>
    have unreadable : ¬(x.serving call task).hasRequests = true := by
      show ¬(x.method.shape.streamsRequests && !false) = true
      rw [single]
      exact Bool.false_ne_true
    rw [wish]
    simp only [Serving.grant, unreadable]
    -- The parts of a story do not depend on the number of its wishes.
    show x.Continues _ _ (story.parts d.opened.isSome) _ _ (3 * (story.wishes + 1) + 3) _
    exact Continues.silent faces rfl rfl (by simp only [Task.effort]; omega) (.awake rest)
  | @write d state story message compression go wish streams rest =>
    obtain ⟨payload, encoded⟩ := encodes message (d.context.flags x.compression compression)
      (by simp [Story.parts_afterWrite])
    obtain ⟨receipts, issued, written⟩ :=
      Call.write_plain x.plain faces.flows encoded x.compression compression
    rw [wish, Serving.grant_write written, Serving.settle_handing, faces.context]
    exact Continues.write faces encoded (rest.initial_of_opened d.opened_answered)
      (Nat.lt_succ_self _) (.checking (.receipts issued rest))
  | @use d state next story how wish rest =>
    rw [Serving.grant_use wish]
    show x.Continues _ _ (story.parts (d.used how).opened.isSome) _ _ (3 * (story.wishes + 1) + 3) _
    exact Continues.silent (faces.used how) rfl rfl (by simp only [Task.effort]; omega)
      (.awake rest)
  | @observe d state story go wish rest =>
    rw [wish]
    show x.Continues _ _ (story.parts d.opened.isSome) _ _ (3 * (story.wishes + 1) + 3)
      (x.serving call (.awake (go call.context.view)), [])
    rw [faces.context]
    exact Continues.silent faces rfl rfl (by simp only [Task.effort]; omega) (.awake rest)
  | @respond d state message wish single =>
    obtain ⟨payload, encoded⟩ := encodes message (d.context.flags x.compression .deferred)
      (by simp [Story.parts_afterWrite])
    obtain ⟨receipts, issued, written⟩ :=
      Call.write_plain x.plain faces.flows encoded x.compression .deferred
    rw [wish, Serving.grant_respond written, Serving.settle_handing, faces.context]
    refine Continues.write faces encoded rfl (Nat.lt_succ_self _) (.checking ?_)
    rw [← Story.ending_answered]
    exact .response issued
  | @succeed d state wish streams =>
    rw [wish]
    exact Continues.conclude faces task (Nat.succ_pos _) rfl
  | @fail d state e wish bad =>
    rw [wish]
    exact Continues.conclude faces task (Nat.succ_pos _) rfl

end Moves

section Attends

variable {call : Call σ Req} {task : Task Req S} {coming : List (RequestPart Req)}
  {future : List (ResponsePart Resp)} {left : List (Sight Req)} {effort : Nat}

/-- A wait that is not over shows nothing. -/
theorem sights_of_resume?_eq_none {now : Nat} {signals : Nat → Signal} {wait : Wait Req S}
    (waits : wait.resume? now signals call = none) : wait.sights call = [] := by
  cases wait with
  | request go =>
    unfold Wait.resume? at waits
    unfold Wait.sights
    cases pulled : call.requests.pull with
    | mk answer requests =>
      rw [pulled] at waits
      cases answer with
      | pending => rfl
      | ready answer => cases waits
  | receipts batch go => rfl
  | cancellation go => rfl
  | time due go => rfl
  | response batch => rfl

theorem Attends.moveTask? (attends : x.Attends call task coming future left effort)
    (encodes : x.Encodes future) {now : Nat} {signals : Nat → Signal}
    (accepting : ∀ t < call.sent, signals t = .waiting ∨ signals t = .settled (.ok ()))
    {out : Serving σ P Req Resp S × List (ResponsePart P)}
    (moved : (x.serving call task).moveTask? now signals = some out) :
    x.Continues call.sent coming future left (x.serving call task).sights effort out := by
  cases attends with
  | idle fits runs => cases moved
  | awaiting single runs => cases moved
  | holding single runs => cases moved
  | ended atEnd => cases moved
  | @begun call task coming d story left faces tells =>
    have calm : ¬call.context.cancelled = true := by
      rw [faces.context, faces.calm]
      exact Bool.false_ne_true
    cases tells with
    | @spawned request d story runs =>
      have seen : (x.serving call (.spawned request)).sights =
          [.invoked call.context.headers request] := if_neg calm
      have started : (x.serving call (.spawned request)).moveTask? now signals =
          some (x.serving call (.awake (x.handler.start call.context.path request)), []) :=
        if_neg calm
      cases started.symm.trans moved
      rw [seen, faces.context]
      exact Continues.silent faces rfl rfl (Nat.lt_succ_self _) (.awake runs)
    | awake runs =>
      cases moved
      exact Continues.grant faces runs encodes _
    | @checking wait d story tells =>
      have seen : (x.serving call (.checking wait)).sights = wait.sights call := rfl
      rw [seen]
      simp only [Serving.moveTask?, serving] at moved
      cases atEnd : wait.resume? now signals call with
      | none =>
        rw [atEnd] at moved
        cases moved
        rw [sights_of_resume?_eq_none atEnd]
        exact Continues.silent faces rfl rfl (Nat.lt_succ_self _) (.waiting tells)
      | some r =>
        rw [atEnd] at moved
        cases moved
        exact Continues.resume faces tells accepting atEnd _ (Nat.le_succ _)
    | @waiting wait d story tells =>
      have seen : (x.serving call (.waiting wait)).sights = wait.sights call := if_neg calm
      have moves : (x.serving call (.waiting wait)).moveTask? now signals =
          (wait.resume? now signals call).map (x.serving call (.waiting wait)).resume :=
        if_neg calm
      rw [moves] at moved
      obtain ⟨r, atEnd, rfl⟩ := Option.map_eq_some_iff.mp moved
      rw [seen]
      exact Continues.resume faces tells accepting atEnd _ (Nat.le_refl _)

/-- The clock wakes nobody, since the handler does not wait for a time. -/
theorem Attends.tick (attends : x.Attends call task coming future left effort) (now : Nat) :
    (x.serving call task).tick now = x.serving call task := by
  cases attends with
  | idle fits runs => rfl
  | awaiting single runs => rfl
  | holding single runs => rfl
  | ended atEnd => rfl
  | begun faces tells =>
    cases tells with
    | spawned runs => rfl
    | awake runs => rfl
    | checking tells => rfl
    | waiting tells => cases tells <;> rfl

/-- A call with something left to emit, whose request has come and whose parts were accepted, can
move. -/
theorem Attends.isSome_moveTask? (attends : x.Attends call task [] future left effort)
    (unfinished : future ≠ []) (now : Nat) {signals : Nat → Signal}
    (accepted : ∀ t < call.sent, signals t = .settled (.ok ())) :
    ((x.serving call task).moveTask? now signals).isSome = true := by
  cases attends with
  | ended atEnd => exact absurd rfl unfinished
  | @begun call task coming d story left faces tells =>
    have calm : ¬call.context.cancelled = true := by
      rw [faces.context, faces.calm]
      exact Bool.false_ne_true
    cases tells with
    | @spawned request d story runs =>
      have started : (x.serving call (.spawned request)).moveTask? now signals =
          some (x.serving call (.awake (x.handler.start call.context.path request)), []) :=
        if_neg calm
      rw [started]
      rfl
    | awake runs => rfl
    | @checking wait d story tells =>
      simp only [Serving.moveTask?, serving]
      cases wait.resume? now signals call <;> rfl
    | @waiting wait d story tells =>
      have moves : (x.serving call (.waiting wait)).moveTask? now signals =
          (wait.resume? now signals call).map (x.serving call (.waiting wait)).resume :=
        if_neg calm
      rw [moves, Option.isSome_map]
      cases tells with
      | @request go d story streams runs =>
        rcases faces.fed.pull streams with ⟨-, coming⟩ | ⟨ready, -⟩
        · exact absurd rfl coming
        · unfold Wait.resume?
          cases pulled : call.requests.pull with
          | mk answer requests =>
            rw [pulled] at ready
            cases ready
            rfl
      | receipts issued runs =>
        simp only [Wait.resume?, awaitAll_of_accepted issued accepted]
        rfl
      | response issued =>
        simp only [Wait.resume?, awaitAll_of_accepted issued accepted]
        rfl

end Attends

end Service

end RemoteCall.Server
