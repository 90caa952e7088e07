import Mathlib.Data.List.Induction
import RemoteCall.CancelScope

/-!
# Scopes and their clones

A poll of a run in a cancelled scope gives up, and any other polls the inner computation once,
whatever that is (`CancelScope.polls`). A `Use` is what somebody does with a table of scopes, and
with what runs inside them. Clones of a scope share its token, so a scope is cancelled exactly if it
was cancelled under one of its names (`ScopeTable.isCancelled_iff`), and it stays so.
-/

namespace RemoteCall

/-- One poll of a run with any inner computation. -/
structure CancelScope.Polls {F V : Type} (advance : F → Poll V × F) (inner : F) : Prop where
  /-- In a cancelled scope it gives up, and leaves the inner computation as it is. -/
  cancelled : CancelScope.poll advance true inner = (.ready none, inner)
  /-- Otherwise the inner computation is polled once, -/
  advances : (CancelScope.poll advance false inner).2 = (advance inner).2
  /-- and if it completes, its value is that of the run; -/
  completes : ∀ value, (advance inner).1 = .ready value ↔
    (CancelScope.poll advance false inner).1 = .ready (some value)
  /-- otherwise the run goes on. -/
  pends : (advance inner).1 = .pending ↔ (CancelScope.poll advance false inner).1 = .pending

theorem CancelScope.polls {F V : Type} (advance : F → Poll V × F) (inner : F) :
    CancelScope.Polls advance inner := by
  cases advanced : advance inner with
  | mk answer inner' =>
    have polled : CancelScope.poll advance false inner = (answer.map some, inner') := by
      simp [CancelScope.poll, advanced]
    refine ⟨rfl, ?_, fun value => ?_, ?_⟩
    · rw [polled, advanced]
    · rw [polled, advanced]
      cases answer <;> simp [Poll.map]
    · rw [polled, advanced]
      cases answer <;> simp [Poll.map]

namespace ScopeTable

variable {V : Type}

/-- What somebody does with scopes and with what runs inside them. Runs, and waits for a
cancellation, go by names as scopes do. -/
inductive Use (V : Type) where
  | create (scope : String)
  | clone (scope name : String)
  | cancel (scope : String)
  | wait (name scope : String)
  | run (name scope : String) (value? : Option V)
  | complete (name : String) (value : V)
  | poll (name : String)
  | drop (name : String)

/-- The table after a use. What is launched is not polled yet. -/
def use (t : ScopeTable V) : Use V → ScopeTable V
  | .create scope => t.create scope
  | .clone scope name => t.clone scope name
  | .cancel scope => t.cancel scope
  | .wait name scope => t.launch name (t.waitTask scope)
  | .run name scope value? => t.launch name (t.runTask scope value?)
  | .complete name value => (t.complete name value).2
  | .poll name => (t.poll name).2
  | .drop name => (t.drop name).2

def after (t : ScopeTable V) (uses : List (Use V)) : ScopeTable V := uses.foldl use t

theorem after_append (t : ScopeTable V) (first second : List (Use V)) :
    t.after (first ++ second) = (t.after first).after second := by
  unfold after
  rw [List.foldl_append]

theorem after_concat (t : ScopeTable V) (uses : List (Use V)) (use : Use V) :
    t.after (uses ++ [use]) = (t.after uses).use use :=
  t.after_append uses [use]

/-! ### Tokens -/

/-- Every name of a scope leads to a token. -/
def Sound (t : ScopeTable V) : Prop := ∀ scope, t.tokenOf scope < t.tokens.length

variable {t : ScopeTable V}

theorem sound_start : ({} : ScopeTable V).Sound := by
  intro scope
  by_cases first : "a" = scope <;> simp [tokenOf, Named.find?, first]

/-- What concerns tasks only. -/
theorem forget_eq (t : ScopeTable V) (name : String) :
    ∃ tasks dropped, t.forget name = { t with tasks, dropped } := by
  unfold forget
  cases t.tasks.find? name with
  | none => exact ⟨_, _, rfl⟩
  | some task => exact ⟨_, _, rfl⟩

/-- The uses that concern scopes. -/
def Use.isOfScopes : Use V → Bool
  | create _ => true
  | clone _ _ => true
  | cancel _ => true
  | _ => false

/-- The other uses leave the scopes alone. -/
theorem use_eq (t : ScopeTable V) {use : Use V} (other : use.isOfScopes = false) :
    ∃ tasks dropped, t.use use = { t with tasks, dropped } := by
  have launched : ∀ name task, ∃ tasks dropped, t.launch name task = { t with tasks, dropped } := by
    intro name task
    obtain ⟨tasks, dropped, forgotten⟩ := t.forget_eq name
    unfold launch
    rw [forgotten]
    exact ⟨_, _, rfl⟩
  cases use with
  | create scope => cases other
  | clone scope name => cases other
  | cancel scope => cases other
  | wait name scope => exact launched name _
  | run name scope value? => exact launched name _
  | drop name => exact t.forget_eq name
  | complete name value =>
    simp only [use, complete]
    split
    · split <;> exact ⟨_, _, rfl⟩
    · exact ⟨_, _, rfl⟩
  | poll name =>
    simp only [use, poll]
    split
    · exact ⟨_, _, rfl⟩
    · split
      · exact t.forget_eq name
      · exact ⟨_, _, rfl⟩
    · split
      · exact t.forget_eq name
      · exact ⟨_, _, rfl⟩

theorem tokenOf_create (t : ScopeTable V) (scope other : String) :
    (t.create scope).tokenOf other =
      if other = scope then t.tokens.length else t.tokenOf other := by
  unfold tokenOf create
  by_cases same : other = scope
  · rw [if_pos same, same, Named.find?_put_self]
    rfl
  · rw [if_neg same, Named.find?_put_of_ne _ same]

theorem tokenOf_clone (t : ScopeTable V) (scope name other : String) :
    (t.clone scope name).tokenOf other = t.tokenOf (if other = name then scope else other) := by
  unfold tokenOf clone
  by_cases same : other = name
  · rw [if_pos same, same, Named.find?_put_self]
    rfl
  · rw [if_neg same, Named.find?_put_of_ne _ same]

theorem Sound.use (sound : t.Sound) (use : Use V) : (t.use use).Sound := by
  cases about : use.isOfScopes with
  | false =>
    obtain ⟨tasks, dropped, same⟩ := t.use_eq about
    rw [same]
    exact sound
  | true =>
    intro other
    cases use with
    | create scope =>
      have longer : (t.create scope).tokens.length = t.tokens.length + 1 := List.length_append
      show (t.create scope).tokenOf other < (t.create scope).tokens.length
      rw [tokenOf_create, longer]
      split
      · exact Nat.lt_succ_self _
      · exact Nat.lt_succ_of_lt (sound other)
    | clone scope name =>
      show (t.clone scope name).tokenOf other < t.tokens.length
      rw [tokenOf_clone]
      exact sound _
    | cancel scope =>
      show t.tokenOf other < (t.tokens.set (t.tokenOf scope) true).length
      rw [List.length_set]
      exact sound other
    | _ => cases about

theorem sound_after (uses : List (Use V)) : (({} : ScopeTable V).after uses).Sound := by
  induction uses using List.reverseRecOn with
  | nil => exact sound_start
  | append_singleton uses use ih =>
    rw [after_concat]
    exact ih.use use

/-- Whether a use cancels the scope of this token. -/
def Cancels (t : ScopeTable V) (token : Nat) (use : Use V) : Prop :=
  ∃ scope, use = .cancel scope ∧ t.tokenOf scope = token

/-- A use cancels the scope of a token, or leaves it as it was. -/
theorem Sound.isCancelled_use (sound : t.Sound) (use : Use V) (token : Nat) :
    (t.use use).isCancelled token = true ↔ t.isCancelled token = true ∨ t.Cancels token use := by
  unfold Cancels
  cases about : use.isOfScopes with
  | false =>
    obtain ⟨tasks, dropped, same⟩ := t.use_eq about
    have quiet : ∀ scope, use ≠ .cancel scope := by
      rintro scope rfl
      cases about
    rw [same]
    show t.isCancelled token = true ↔ _
    simp [quiet]
  | true =>
    cases use with
    | create scope =>
      have appended : (t.use (.create scope)).isCancelled token =
          ((t.tokens ++ [false])[token]?).getD false := rfl
      have same : ((t.tokens ++ [false])[token]?).getD false = t.isCancelled token := by
        unfold isCancelled
        rw [List.getElem?_append]
        split
        · rfl
        · rename_i outside
          rw [List.getElem?_eq_none (Nat.le_of_not_lt outside)]
          cases token - t.tokens.length <;> rfl
      rw [appended, same]
      simp
    | clone scope name =>
      show t.isCancelled token = true ↔ _
      simp
    | cancel scope =>
      have set : (t.use (.cancel scope)).isCancelled token =
          ((t.tokens.set (t.tokenOf scope) true)[token]?).getD false := rfl
      rw [set]
      by_cases same : t.tokenOf scope = token
      · have inside := sound scope
        rw [same] at inside ⊢
        simp [inside, same]
      · simp [isCancelled, List.getElem?_set_ne same, same]
    | _ => cases about

/-- A scope is cancelled exactly if one of the uses has cancelled it, under any of its names. -/
theorem isCancelled_iff (uses : List (Use V)) (token : Nat) :
    (({} : ScopeTable V).after uses).isCancelled token = true ↔
      ∃ before scope later, uses = before ++ .cancel scope :: later ∧
        (({} : ScopeTable V).after before).tokenOf scope = token := by
  induction uses using List.reverseRecOn with
  | nil =>
    have fresh : (({} : ScopeTable V).after []).isCancelled token = false := by
      show ([false][token]?).getD false = false
      cases token <;> rfl
    simp [fresh]
  | append_singleton uses use ih =>
    rw [after_concat, (sound_after uses).isCancelled_use, ih]
    constructor
    · rintro (⟨before, scope, later, rfl, there⟩ | ⟨scope, rfl, there⟩)
      · exact ⟨before, scope, later ++ [use], by simp, there⟩
      · exact ⟨uses, scope, [], rfl, there⟩
    · rintro ⟨before, scope, later, split, there⟩
      rcases List.eq_nil_or_concat later with rfl | ⟨later, last, rfl⟩
      · obtain ⟨rfl, same⟩ := List.append_inj' split rfl
        cases same
        exact .inr ⟨scope, rfl, there⟩
      · rw [List.concat_eq_append, ← List.cons_append, ← List.append_assoc] at split
        obtain ⟨rfl, -⟩ := List.append_inj' split rfl
        exact .inl ⟨before, scope, later, rfl, there⟩

end ScopeTable

end RemoteCall
