import RemoteCall.Proofs.CancelScope

/-!
# What runs in a cancelled scope

Computations run inside scopes, which are created, cloned and cancelled meanwhile. Each use says
what it makes of the run of a name (`ScopeTable.treats`): it leaves it alone, launches it, polls it,
completes its inner computation, or ends it. So what is known of a run that is there is how it was
launched and what was done with it since (`ScopeTable.launched`), and as many inner computations
were dropped as were launched and are not there any more (`ScopeTable.balance`).
-/

namespace RemoteCall

/-- A poll of an inner computation is counted. -/
theorem Inner.poll_snd {V : Type} (inner : Inner V) :
    inner.poll.2 = { inner with polls := inner.polls + 1 } := by
  unfold Inner.poll
  cases inner.value? <;> rfl

/-- The token and the inner computation of a run. -/
def ScopeTask.run? {V : Type} : ScopeTask V → Option (Nat × Inner V)
  | wait _ _ => none
  | run token inner _ => some (token, inner)

namespace ScopeTable

variable {V : Type} {t : ScopeTable V}

/-- The run of a name, if there is one: its token and its inner computation. -/
def running? (t : ScopeTable V) (name : String) : Option (Nat × Inner V) :=
  (t.tasks.find? name).bind ScopeTask.run?

namespace Use

/-- The name of the task that is used. -/
def name? : Use V → Option String
  | wait name _ => some name
  | run name _ _ => some name
  | complete name _ => some name
  | poll name => some name
  | drop name => some name
  | _ => none

/-- Whether the task of a name is dropped, or another one takes its place. -/
def replaces (name : String) : Use V → Bool
  | wait other _ => other == name
  | run other _ _ => other == name
  | drop other => other == name
  | _ => false

/-- Whether a run is launched under a name. -/
def launches (name : String) : Use V → Bool
  | run other _ _ => other == name
  | _ => false

/-- Whether the task of a name is polled. -/
def polls (name : String) : Use V → Bool
  | poll other => other == name
  | _ => false

/-- The value that is given to the inner computation of a name. -/
def value? (name : String) : Use V → Option V
  | complete other value => if other = name then some value else none
  | _ => none

/-- A use that is not about the task of a name does none of this with it. -/
theorem of_apart {use : Use V} {name : String} (apart : use.name? ≠ some name) :
    use.launches name = false ∧ use.replaces name = false ∧ use.polls name = false ∧
      use.value? name = none := by
  cases use with
  | create scope => exact ⟨rfl, rfl, rfl, rfl⟩
  | clone scope clone => exact ⟨rfl, rfl, rfl, rfl⟩
  | cancel scope => exact ⟨rfl, rfl, rfl, rfl⟩
  | _ => simp_all [name?, launches, replaces, polls, value?]

end Use

variable {name other : String} {token : Nat} {inner : Inner V}

theorem running?_forget (t : ScopeTable V) (name other : String) :
    (t.forget name).running? other = if other = name then none else t.running? other := by
  unfold running? forget
  cases found : t.tasks.find? name with
  | none =>
    by_cases same : other = name
    · rw [if_pos same, same]
      exact congrArg (Option.bind · ScopeTask.run?) found
    · exact (if_neg same).symm
  | some task =>
    by_cases same : other = name
    · rw [if_pos same, same]
      exact congrArg (Option.bind · ScopeTask.run?) (Named.find?_erase_self t.tasks name)
    · rw [if_neg same]
      exact congrArg (Option.bind · ScopeTask.run?) (Named.find?_erase_of_ne t.tasks same)

theorem dropped_forget (t : ScopeTable V) (name : String) :
    (t.forget name).dropped = t.dropped ++ if (t.running? name).isSome then [name] else [] := by
  unfold running? forget
  cases t.tasks.find? name with
  | none => exact (List.append_nil _).symm
  | some task =>
    cases task with
    | wait token waker => exact (List.append_nil _).symm
    | run token inner waker => rfl

theorem running?_put (t : ScopeTable V) (name other : String) (task : ScopeTask V) :
    { t with tasks := t.tasks.put name task }.running? other =
      if other = name then task.run? else t.running? other := by
  unfold running?
  split
  · rename_i same
    rw [same, Named.find?_put_self]
    rfl
  · rename_i differ
    rw [Named.find?_put_of_ne _ differ]

theorem running?_launch (t : ScopeTable V) (name other : String) (task : ScopeTask V) :
    (t.launch name task).running? other =
      if other = name then task.run? else t.running? other := by
  unfold launch
  rw [running?_put, running?_forget]
  split <;> rfl

/-- Cancelling only wakes what waits. -/
theorem running?_cancel (t : ScopeTable V) (scope other : String) :
    (t.cancel scope).running? other = t.running? other := by
  have woken : (t.cancel scope).tasks.find? other = (t.tasks.find? other).map fun task =>
      if task.token == t.tokenOf scope then task.wake else task :=
    Named.find?_map t.tasks
      (fun task => if task.token == t.tokenOf scope then task.wake else task) other
  unfold running?
  rw [woken]
  cases t.tasks.find? other with
  | none => rfl
  | some task =>
    show (if task.token == t.tokenOf scope then task.wake else task).run? = task.run?
    split
    · cases task <;> rfl
    · rfl

theorem exists_of_running (running : t.running? name = some (token, inner)) :
    ∃ waker, t.tasks.find? name = some (.run token inner waker) := by
  obtain ⟨task, there, runs⟩ := Option.bind_eq_some_iff.mp running
  cases task with
  | wait token waker => cases runs
  | run token inner waker =>
    cases runs
    exact ⟨waker, there⟩

theorem running?_complete (t : ScopeTable V) (name other : String) (value : V) :
    (t.complete name value).2.running? other =
      if other = name then (t.running? name).map fun run => (run.1, run.2.complete value)
      else t.running? other := by
  -- The completion changes the run of the name, if it changes anything.
  have changes : (t.complete name value).2 = t ∧
        (t.running? name).map (fun run => (run.1, run.2.complete value)) = t.running? name ∨
      ∃ token inner waker, t.running? name = some (token, inner) ∧ (t.complete name value).2 =
        { t with tasks := t.tasks.put name (.run token (inner.complete value) waker) } := by
    cases running : t.running? name with
    | none =>
      refine .inl ⟨?_, rfl⟩
      unfold complete
      split
      · rename_i token inner waker there
        simp [running?, there, ScopeTask.run?] at running
      · rfl
    | some run =>
      obtain ⟨token, inner⟩ := run
      obtain ⟨waker, there⟩ := exists_of_running running
      simp only [complete, there]
      cases completed : inner.value? with
      | some first =>
        refine .inl ⟨rfl, ?_⟩
        have same : inner.complete value = inner := by
          obtain ⟨value?, polls⟩ := inner
          cases completed
          rfl
        rw [Option.map_some, same]
      | none => exact .inr ⟨token, inner, waker.wake, rfl, rfl⟩
  rcases changes with ⟨same, completed⟩ | ⟨token, inner, waker, running, put⟩
  · rw [same, completed]
    split
    · rename_i same
      rw [same]
    · rfl
  · rw [put, running?_put, running]
    rfl

/-! ### What becomes of a run -/

/-- What a poll does to the run of a name. -/
inductive PollsRun (t : ScopeTable V) (name : String) :
    Option (Poll (ScopeValue V)) × ScopeTable V → Prop where
  /-- There is no run. -/
  | absent {answer : Option (Poll (ScopeValue V))} {t' : ScopeTable V}
      (absent : t.running? name = none) (other : ∀ value, answer ≠ some (.ready (.ran value)))
      (same : ∀ other, t'.running? other = t.running? other) (dropped : t'.dropped = t.dropped) :
      PollsRun t name (answer, t')
  | gives_up {token : Nat} {inner : Inner V}
      (running : t.running? name = some (token, inner)) (cancelled : t.isCancelled token = true) :
      PollsRun t name (some (.ready (.ran none)), t.forget name)
  | returns {token : Nat} {inner : Inner V} {value : V}
      (running : t.running? name = some (token, inner)) (going : t.isCancelled token = false)
      (ready : inner.poll.1 = .ready value) :
      PollsRun t name (some (.ready (.ran (some value))), t.forget name)
  | pends {token : Nat} {inner : Inner V} {waker : Waker}
      (running : t.running? name = some (token, inner)) (going : t.isCancelled token = false)
      (pending : inner.poll.1 = .pending) :
      PollsRun t name (some .pending,
        { t with tasks := t.tasks.put name (.run token inner.poll.2 waker) })

theorem pollsRun (t : ScopeTable V) (name : String) : t.PollsRun name (t.poll name) := by
  cases there : t.tasks.find? name with
  | none =>
    have absent : t.running? name = none := congrArg (Option.bind · ScopeTask.run?) there
    have polled : t.poll name = (none, t) := by simp [poll, there]
    rw [polled]
    exact .absent absent (by simp) (fun _ => rfl) rfl
  | some task =>
    have run : t.running? name = task.run? := congrArg (Option.bind · ScopeTask.run?) there
    cases task with
    | wait token waker =>
      -- There is no run under the name, whatever becomes of the wait.
      have none : ∀ other,
          (if other = name then none else t.running? other) = t.running? other := by
        intro other
        split
        · rename_i same
          rw [same]
          exact run.symm
        · rfl
      by_cases cancelled : t.isCancelled token = true
      · have polled : t.poll name = (some (.ready .cancelled), t.forget name) := by
          simp [poll, there, cancelled]
        rw [polled]
        refine .absent run (by simp) (fun other => ?_) ?_
        · rw [running?_forget, none]
        · rw [dropped_forget, run]
          exact List.append_nil _
      · have polled : t.poll name =
            (some .pending, { t with tasks := t.tasks.put name (.wait token .armed) }) := by
          simp [poll, there, cancelled]
        rw [polled]
        exact .absent run (by simp) (fun other => (running?_put ..).trans (none other)) rfl
    | run token inner waker =>
      cases cancelled : t.isCancelled token with
      | true =>
        have polled : t.poll name = (some (.ready (.ran none)), t.forget name) := by
          simp [poll, there, CancelScope.poll, cancelled]
        rw [polled]
        exact .gives_up run cancelled
      | false =>
        cases advanced : inner.poll with
        | mk answer inner' =>
          cases answer with
          | ready value =>
            have polled : t.poll name = (some (.ready (.ran (some value))), t.forget name) := by
              simp [poll, there, CancelScope.poll, cancelled, advanced, Poll.map]
            rw [polled]
            exact .returns run cancelled (congrArg Prod.fst advanced)
          | pending =>
            have polled : t.poll name = (some .pending,
                { t with tasks := t.tasks.put name (.run token inner.poll.2 .armed) }) := by
              simp [poll, there, CancelScope.poll, cancelled, advanced, Poll.map]
            rw [polled]
            exact .pends run cancelled (congrArg Prod.fst advanced)

/-- What a use does to the run of a name. -/
inductive Treats (t : ScopeTable V) (name : String) : Use V → ScopeTable V → Prop where
  /-- It leaves it alone, if there is one. -/
  | leaves {use : Use V} {t' : ScopeTable V} (same : t'.running? name = t.running? name)
      (dropped : t'.dropped.count name = t.dropped.count name)
      (launches : use.launches name = false)
      (apart : t.running? name ≠ none →
        use.replaces name = false ∧ use.polls name = false ∧ use.value? name = none) :
      Treats t name use t'
  | launches {scope : String} {value? : Option V} {t' : ScopeTable V}
      (launched : t'.running? name = some (t.tokenOf scope, { value? }))
      (dropped : t'.dropped.count name =
        t.dropped.count name + if (t.running? name).isSome then 1 else 0) :
      Treats t name (.run name scope value?) t'
  | ends {use : Use V} {t' : ScopeTable V} (there : (t.running? name).isSome = true)
      (gone : t'.running? name = none)
      (dropped : t'.dropped.count name = t.dropped.count name + 1)
      (launches : use.launches name = false) : Treats t name use t'
  | pends {token : Nat} {inner : Inner V} {t' : ScopeTable V}
      (running : t.running? name = some (token, inner))
      (polled : t'.running? name = some (token, inner.poll.2))
      (dropped : t'.dropped = t.dropped) : Treats t name (.poll name) t'
  | completes {token : Nat} {inner : Inner V} {value : V} {t' : ScopeTable V}
      (running : t.running? name = some (token, inner))
      (completed : t'.running? name = some (token, inner.complete value))
      (dropped : t'.dropped = t.dropped) : Treats t name (.complete name value) t'

theorem count_forget (t : ScopeTable V) (name other : String) :
    (t.forget other).dropped.count name =
      t.dropped.count name + if other = name ∧ (t.running? name).isSome then 1 else 0 := by
  rw [dropped_forget, List.count_append]
  by_cases same : other = name
  · subst same
    cases t.running? other <;> simp
  · cases t.running? other <;> simp [same]

/-- The task of a name is dropped, and no run is put in its place. -/
theorem Treats.of_replaces {use : Use V} (launches : use.launches name = false)
    {t' : ScopeTable V} (gone : t'.running? name = none)
    (dropped : t'.dropped = (t.forget name).dropped) : t.Treats name use t' := by
  have count := t.count_forget name name
  rw [← dropped] at count
  cases running : t.running? name with
  | none =>
    rw [running] at count
    refine .leaves (gone.trans running.symm) ?_ launches (absurd running)
    simpa using count
  | some run =>
    rw [running] at count
    exact .ends (by rw [running]; rfl) gone (by simpa using count) launches

theorem treats_poll (t : ScopeTable V) (name : String) :
    t.Treats name (.poll name) (t.poll name).2 := by
  have polls := t.pollsRun name
  generalize t.poll name = out at polls
  have ended : (t.running? name).isSome = true → t.Treats name (.poll name) (t.forget name) := by
    intro there
    exact .of_replaces rfl (by rw [running?_forget, if_pos rfl]) rfl
  cases polls with
  | absent absent other same dropped =>
    exact .leaves (same name) (by rw [dropped]) rfl (absurd absent)
  | gives_up running cancelled => exact ended (by rw [running]; rfl)
  | returns running going ready => exact ended (by rw [running]; rfl)
  | pends running going pending =>
    exact .pends running (by rw [running?_put, if_pos rfl]; rfl) rfl

/-- Completing the inner computation of a run is all that a completion does. -/
theorem complete_eq (t : ScopeTable V) (name : String) (value : V) :
    ∃ tasks, (t.complete name value).2 = { t with tasks } := by
  unfold complete
  split
  · split <;> exact ⟨_, rfl⟩
  · exact ⟨_, rfl⟩

theorem treats_complete (t : ScopeTable V) (name : String) (value : V) :
    t.Treats name (.complete name value) (t.complete name value).2 := by
  have completed := t.running?_complete name name value
  obtain ⟨tasks, changed⟩ := t.complete_eq name value
  rw [if_pos rfl] at completed
  cases running : t.running? name with
  | none =>
    rw [running] at completed
    exact .leaves (completed.trans running.symm) (by rw [changed]) rfl (absurd running)
  | some run =>
    rw [running] at completed
    exact .completes running completed (by rw [changed])

/-- A use of a task is no concern of the runs of other names, and neither is one of a scope. -/
theorem treats_of_ne (t : ScopeTable V) {use : Use V} (apart : use.name? ≠ some name) :
    (t.use use).running? name = t.running? name ∧
      (t.use use).dropped.count name = t.dropped.count name := by
  have forgotten : ∀ other, some other ≠ some name →
      (t.forget other).running? name = t.running? name ∧
        (t.forget other).dropped.count name = t.dropped.count name := by
    intro other differ
    have ne : other ≠ name := fun same => differ (congrArg some same)
    rw [running?_forget, if_neg (Ne.symm ne), count_forget, if_neg fun both => ne both.1]
    exact ⟨rfl, Nat.add_zero _⟩
  have put : ∀ (t' : ScopeTable V) other task, some other ≠ some name →
      { t' with tasks := t'.tasks.put other task }.running? name = t'.running? name := by
    intro t' other task differ
    rw [running?_put, if_neg fun same => differ (congrArg some same.symm)]
  cases use with
  | create scope => exact ⟨rfl, rfl⟩
  | clone scope clone => exact ⟨rfl, rfl⟩
  | cancel scope => exact ⟨t.running?_cancel scope name, rfl⟩
  | wait other scope =>
    obtain ⟨running, dropped⟩ := forgotten other apart
    exact ⟨(put _ other _ apart).trans running, dropped⟩
  | run other scope value? =>
    obtain ⟨running, dropped⟩ := forgotten other apart
    exact ⟨(put _ other _ apart).trans running, dropped⟩
  | drop other => exact forgotten other apart
  | complete other value =>
    obtain ⟨tasks, changed⟩ := t.complete_eq other value
    have dropped : (t.complete other value).2.dropped = t.dropped := by rw [changed]
    refine ⟨?_, congrArg (List.count name) dropped⟩
    exact (t.running?_complete other name value).trans
      (if_neg fun same => apart (congrArg some same.symm))
  | poll other =>
    have polls := t.pollsRun other
    show (t.poll other).2.running? name = _ ∧ (t.poll other).2.dropped.count name = _
    generalize t.poll other = out at polls
    cases polls with
    | absent absent _ same dropped => exact ⟨same name, by rw [dropped]⟩
    | gives_up running cancelled => exact forgotten other apart
    | returns running going ready => exact forgotten other apart
    | pends running going pending => exact ⟨put t other _ apart, rfl⟩

theorem treats (t : ScopeTable V) (name : String) (use : Use V) :
    t.Treats name use (t.use use) := by
  by_cases about : use.name? = some name
  · cases use with
    | create scope => cases about
    | clone scope clone => cases about
    | cancel scope => cases about
    | wait other scope =>
      cases about
      exact .of_replaces rfl ((running?_launch ..).trans (if_pos rfl)) rfl
    | run other scope value? =>
      cases about
      refine .launches ((running?_launch ..).trans (if_pos rfl)) ?_
      exact (t.count_forget name name).trans (by simp)
    | drop other =>
      cases about
      exact .of_replaces rfl ((running?_forget ..).trans (if_pos rfl)) rfl
    | complete other value =>
      cases about
      exact t.treats_complete name value
    | poll other =>
      cases about
      exact t.treats_poll name
  · obtain ⟨same, dropped⟩ := t.treats_of_ne about
    obtain ⟨launches, others⟩ := use.of_apart about
    exact .leaves same dropped launches fun _ => others

/-! ### Runs from their launch to their end -/

/-- How the run of a name came to where it is: it was launched in a scope of this token, and nothing
has taken its place since. Its inner computation has the first value it was given, and was polled
as often as the run. -/
def Launched (uses : List (Use V)) (name : String) (token : Nat) (inner : Inner V) : Prop :=
  ∃ before scope value? since, uses = before ++ .run name scope value? :: since ∧
    (({} : ScopeTable V).after before).tokenOf scope = token ∧
    (∀ use ∈ since, use.replaces name = false) ∧
    inner = ⟨value?.or (since.findSome? (Use.value? name)), since.countP (Use.polls name)⟩

/-- One more use that does not end the run. -/
theorem Launched.concat {uses : List (Use V)} (launched : Launched uses name token inner)
    {use : Use V} (stays : use.replaces name = false) {inner' : Inner V}
    (value : inner'.value? = inner.value?.or (use.value? name))
    (polls : inner'.polls = inner.polls + if use.polls name then 1 else 0) :
    Launched (uses ++ [use]) name token inner' := by
  obtain ⟨before, scope, value?, since, rfl, there, alone, rfl⟩ := launched
  refine ⟨before, scope, value?, since ++ [use], by simp, there, ?_, ?_⟩
  · exact List.forall_mem_append.mpr ⟨alone, List.forall_mem_singleton.mpr stays⟩
  · obtain ⟨value', polls'⟩ := inner'
    rw [List.findSome?_append, List.findSome?_singleton, List.countP_append,
      List.countP_singleton, ← Option.or_assoc, Inner.mk.injEq]
    exact ⟨value, polls⟩

/-- Of every run that is there it is known how it came there. -/
theorem launched (uses : List (Use V))
    (running : (({} : ScopeTable V).after uses).running? name = some (token, inner)) :
    Launched uses name token inner := by
  induction uses using List.reverseRecOn generalizing inner with
  | nil => cases running
  | append_singleton uses use ih =>
    rw [after_concat] at running
    have treats := (({} : ScopeTable V).after uses).treats name use
    generalize (({} : ScopeTable V).after uses).use use = t' at running treats
    cases treats with
    | leaves same dropped launches apart =>
      have was := same.symm.trans running
      obtain ⟨stays, unpolled, uncompleted⟩ := apart (by rw [was]; nofun)
      refine (ih was).concat stays ?_ ?_
      · rw [uncompleted, Option.or_none]
      · rw [unpolled]
        rfl
    | @launches scope value? _ launched dropped =>
      obtain ⟨rfl, rfl⟩ := Prod.mk.inj (Option.some.inj (launched.symm.trans running))
      exact ⟨uses, scope, value?, [], rfl, rfl, List.forall_mem_nil _, by simp⟩
    | ends there gone => cases gone.symm.trans running
    | pends was polled =>
      obtain ⟨rfl, rfl⟩ := Prod.mk.inj (Option.some.inj (polled.symm.trans running))
      refine (ih was).concat rfl ?_ ?_
      · rw [Inner.poll_snd]
        exact (Option.or_none).symm
      · rw [Inner.poll_snd]
        simp [Use.polls]
    | completes was completed =>
      obtain ⟨rfl, rfl⟩ := Prod.mk.inj (Option.some.inj (completed.symm.trans running))
      exact (ih was).concat rfl (by simp [Inner.complete, Use.value?]) rfl

/-- Of the inner computations that were launched under a name, all were dropped but that of the run
that is there. -/
theorem balance (uses : List (Use V)) (name : String) :
    uses.countP (Use.launches name) =
      (({} : ScopeTable V).after uses).dropped.count name +
        if ((({} : ScopeTable V).after uses).running? name).isSome then 1 else 0 := by
  induction uses using List.reverseRecOn with
  | nil => rfl
  | append_singleton uses use ih =>
    rw [after_concat, List.countP_append, ih]
    have treats := (({} : ScopeTable V).after uses).treats name use
    generalize (({} : ScopeTable V).after uses).use use = t' at treats
    generalize ({} : ScopeTable V).after uses = t at treats
    cases treats with
    | leaves same dropped launches apart =>
      rw [same, dropped, List.countP_singleton, launches]
      rfl
    | launches launched dropped =>
      rw [launched, dropped]
      simp [Use.launches]
    | ends there gone dropped launches =>
      rw [there, gone, dropped, List.countP_singleton, launches]
      rfl
    | pends running polled dropped =>
      rw [running, polled, dropped]
      rfl
    | completes running completed dropped =>
      rw [running, completed, dropped]
      rfl

/-- A run whose inner computation is ready, but whose scope is cancelled under another name before
the first poll, gives up. -/
example :
    let t := ({} : ScopeTable String).after
      [.clone "a" "b", .run "r" "a" (some "done"), .cancel "b"]
    t.running? "r" = some (0, ⟨some "done", 0⟩) ∧
      (t.poll "r").1 = some (.ready (.ran none)) ∧ (t.poll "r").2.dropped = ["r"] :=
  ⟨rfl, rfl, rfl⟩

end ScopeTable

end RemoteCall
