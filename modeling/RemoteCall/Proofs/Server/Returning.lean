import Mathlib.Data.List.Induction
import RemoteCall.Proofs.Server.Event

/-!
# How a handler returns

The last wish of a handler is to return. If it returns a response of its own, this is written for
it, and it has returned once the transport has settled the acceptance of what was written; the
write of a response that is refused at the gate ends it at once. So when a call is finished by its
handler, this was one of the ways to return (`Serving.returns_of_finish`).
-/

namespace RemoteCall.Server

variable {σ P Req Resp S : Type}

/-- The receipts of the response that a task waits for before it has returned. -/
def Task.answering? : Task Req S → Option (List Receipt)
  | checking (.response batch) => some batch
  | waiting (.response batch) => some batch
  | _ => none

namespace Serving

variable {s : Serving σ P Req Resp S} {batch : List Receipt}

/-- The handler returns this response, and this becomes of the write of it. -/
def Submits (s : Serving σ P Req Resp S) (response : Resp) (outcome : Result (List Receipt)) :
    Prop :=
  ∃ state, s.task = .awake state ∧ s.handler.wish state = .finish (.ok (some response)) ∧
    (s.call.write s.method s.compression response .deferred).1 = outcome

theorem answering?_settle {p : Pass σ P Req}
    (answers : (s.settle p).1.task.answering? = some batch) : s.task.answering? = some batch := by
  obtain ⟨call, ops⟩ := p
  unfold settle at answers
  dsimp only at answers
  generalize s.task = task at answers ⊢
  induction ops generalizing task with
  | nil => exact answers
  | cons op rest ih =>
    cases op with
    | start request => cases ih (.spawned request) answers
    | send part => exact ih task answers

theorem answering?_resume (r : Resumption S × Call σ Req) :
    (s.resume r).1.task.answering? = none := by
  obtain ⟨resumption, call⟩ := r
  cases resumption <;> rfl

theorem submits_of_grant {now : Nat} {state : S} (awake : s.task = .awake state)
    (answers : (s.grant now (s.handler.wish state)).1.task.answering? = some batch) :
    ∃ response, s.Submits response (.ok batch) := by
  cases wish : s.handler.wish state with
  | pull go =>
    rw [wish] at answers
    simp only [grant] at answers
    split at answers <;> cases answers
  | write message compression go =>
    rw [wish] at answers
    simp only [grant] at answers
    split at answers <;> cases answers
  | finish result =>
    rw [wish] at answers
    cases result with
    | error e => cases answers
    | ok response? =>
      cases response? with
      | none => cases answers
      | some response =>
        refine ⟨response, state, awake, wish, ?_⟩
        simp only [grant] at answers
        cases written : s.call.write s.method s.compression response .deferred with
        | mk outcome p =>
          rw [written] at answers
          cases outcome with
          | ok receipts =>
            cases answers
            rfl
          | error e => cases answers
  | _ =>
    rw [wish] at answers
    cases answers

/-- A task that waits for the acceptance of its response has waited before, or returns it now. -/
theorem answering?_perform {move : Move σ P Req Resp}
    (answers : (s.perform move).1.task.answering? = some batch) :
    s.task.answering? = some batch ∨
      ∃ now signals response, move = .task now signals ∧ s.Submits response (.ok batch) := by
  cases move with
  | receive part => exact Or.inl (answering?_settle answers)
  | error e => exact Or.inl (answering?_settle answers)
  | tick now =>
    simp only [perform, tick] at answers
    split at answers
    · split at answers
      · cases answers
      · exact Or.inl answers
    · exact Or.inl answers
  | errand signals =>
    simp only [perform, moveErrand?] at answers
    split at answers
    · exact Or.inl answers
    · next turn p behind found =>
      left
      cases turn <;> exact answering?_settle answers
  | dissolve =>
    simp only [perform, dissolve?] at answers
    split at answers <;> exact Or.inl answers
  | task now signals =>
    simp only [perform, moveTask?] at answers
    cases task : s.task with
    | absent =>
      simp only [task] at answers
      exact Or.inl (task ▸ answers)
    | gone =>
      simp only [task] at answers
      exact Or.inl (task ▸ answers)
    | spawned request =>
      simp only [task] at answers
      split at answers <;> cases answers
    | awake state =>
      simp only [task] at answers
      obtain ⟨response, submits⟩ := submits_of_grant task answers
      exact Or.inr ⟨now, signals, response, rfl, submits⟩
    | checking wait =>
      simp only [task] at answers
      split at answers
      · next r resumed => cases (answering?_resume r).symm.trans answers
      · left
        cases wait <;> exact answers
    | waiting wait =>
      simp only [task] at answers
      split at answers
      · cases answers
      · cases resumed : wait.resume? now signals s.call with
        | none =>
          rw [resumed] at answers
          exact Or.inl (task ▸ answers)
        | some r =>
          rw [resumed] at answers
          cases (answering?_resume r).symm.trans answers
  | _ => exact Or.inl answers

/-- A task that waits for the acceptance of its response has returned it before. -/
theorem exists_submits (begins : s.task.answering? = none) {moves : List (Move σ P Req Resp)}
    (answers : (s.run moves).task.answering? = some batch) :
    ∃ before now signals after response, moves = before ++ .task now signals :: after ∧
      (s.run before).Submits response (.ok batch) := by
  induction moves using List.reverseRecOn with
  | nil => cases begins.symm.trans answers
  | append_singleton moves move ih =>
    rw [run_concat] at answers
    rcases answering?_perform answers with earlier | ⟨now, signals, response, rfl, submits⟩
    · obtain ⟨before, now, signals, after, response, rfl, submits⟩ := ih earlier
      exact ⟨before, now, signals, after ++ [move], response, by simp, submits⟩
    · exact ⟨moves, now, signals, [], response, rfl, submits⟩

/-- The handler has returned with this move of its task, and this is the result: that of the
handler, if it answers with no response of its own, or what has become of the response. -/
inductive Returns (s : Serving σ P Req Resp S) (before : List (Move σ P Req Resp)) :
    Move σ P Req Resp → Result Unit → Prop
  | done {now : Nat} {signals : Nat → Signal} {state : S}
      (awake : (s.run before).task = .awake state)
      (wish : (s.run before).handler.wish state = .finish (.ok none)) :
      Returns s before (.task now signals) (.ok ())
  | failed {now : Nat} {signals : Nat → Signal} {state : S} {e : CallError}
      (awake : (s.run before).task = .awake state)
      (wish : (s.run before).handler.wish state = .finish (.error e)) :
      Returns s before (.task now signals) (.error e)
  /-- The response was refused at the gate. -/
  | refused {now : Nat} {signals : Nat → Signal} {response : Resp} {e : CallError}
      (submits : (s.run before).Submits response (.error e)) :
      Returns s before (.task now signals) (.error e)
  /-- The transport has settled the acceptance of the response. -/
  | settled {now : Nat} {signals : Nat → Signal} {first later : List (Move σ P Req Resp)}
      {response : Resp} {batch : List Receipt} {result : Result Unit}
      (split : before = first ++ later) (submits : (s.run first).Submits response (.ok batch))
      (settles : Receipt.awaitAll signals batch = some result) :
      Returns s before (.task now signals) result

theorem returns_of_granting {before : List (Move σ P Req Resp)} {now : Nat}
    {signals : Nat → Signal} {state : S} {result : Result Unit}
    (awake : (s.run before).task = .awake state)
    (finishes : .finish result ∈ (s.run before).granting ((s.run before).handler.wish state)) :
    s.Returns before (.task now signals) result := by
  cases wish : (s.run before).handler.wish state with
  | finish returned =>
    rw [wish] at finishes
    cases returned with
    | error e =>
      cases List.mem_singleton.mp finishes
      exact .failed awake wish
    | ok response? =>
      cases response? with
      | none =>
        cases List.mem_singleton.mp finishes
        exact .done awake wish
      | some response =>
        have concludes : .finish result ∈ (s.run before).concluding response := by
          simpa [granting] using finishes
        unfold concluding at concludes
        split at concludes
        · cases concludes
        · next e refused =>
          cases List.mem_singleton.mp concludes
          exact .refused ⟨state, awake, wish, refused⟩
  | _ => simp [wish, granting] at finishes

/-- The handler of a call finishes it by returning. -/
theorem returns_of_finish (begins : s.task.answering? = none) {before : List (Move σ P Req Resp)}
    {move : Move σ P Req Resp} {result : Result Unit}
    (finishes : .finish result ∈ (s.run before).events move) : s.Returns before move result := by
  -- The end of a wait is a return if the wait is for the response.
  have resumes : ∀ {now : Nat} {signals : Nat → Signal} {wait : Wait Req S},
      (∀ batch, wait = .response batch → (s.run before).task.answering? = some batch) →
      .finish result ∈ (s.run before).resuming signals wait →
        s.Returns before (.task now signals) result := by
    intro now signals wait answers finishes
    cases wait with
    | response batch =>
      obtain ⟨first, now', signals', after, response, split, submits⟩ :=
        exists_submits begins (answers batch rfl)
      have settles : Receipt.awaitAll signals batch = some result := by
        simpa [resuming] using finishes
      exact .settled split submits settles
    | request go =>
      simp only [resuming] at finishes
      split at finishes <;> simp at finishes
    | _ => cases finishes
  cases move with
  | receive part => cases List.mem_singleton.mp finishes
  | error e => cases List.mem_singleton.mp finishes
  | release => cases List.mem_singleton.mp finishes
  | use how => cases List.mem_singleton.mp finishes
  | pull => cases List.mem_singleton.mp finishes
  | dissolve =>
    simp only [events] at finishes
    split at finishes <;> simp at finishes
  | errand signals =>
    simp only [events, errandEvents] at finishes
    split at finishes
    · next errand p behind found =>
      unfold jobEvents at finishes
      split at finishes <;> simp at finishes
    · cases finishes
  | task now signals =>
    simp only [events, taskEvents] at finishes
    cases task : (s.run before).task with
    | absent => simp [task] at finishes
    | gone => simp [task] at finishes
    | spawned request => simp [task] at finishes
    | awake state =>
      simp only [task] at finishes
      exact returns_of_granting task finishes
    | checking wait =>
      simp only [task] at finishes
      refine resumes (fun batch response => ?_) finishes
      rw [task, response]
      rfl
    | waiting wait =>
      simp only [task] at finishes
      split at finishes
      · cases finishes
      · refine resumes (fun batch response => ?_) finishes
        rw [task, response]
        rfl
  | _ => cases finishes

end Serving

end RemoteCall.Server
