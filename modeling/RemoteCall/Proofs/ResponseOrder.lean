import RemoteCall.ResponseOrder

/-!
# The order of response parts, over whole sequences

`ResponseOrder.after` is the order after a sequence of parts, and `ResponseOrder.Passed` says
which sequences of parts may have passed when the filter stands at an order. All of them are
well-formed (`ResponseOrder.Passed.wellFormed`).
-/

namespace RemoteCall

namespace ResponsePart

variable {α : Type}

/-- Whether this part carries a message. -/
def isMessage : ResponsePart α → Bool
  | message _ _ => true
  | _ => false

/-- A response as it should be: headers and then messages, or nothing of both, and at most one
end behind them. -/
def WellFormed (parts : List (ResponsePart α)) : Prop :=
  ∃ body ending, parts = body ++ ending ∧
    (body = [] ∨ ∃ m messages, body = .headers m :: messages ∧
      ∀ part ∈ messages, part.isMessage = true) ∧
    (ending = [] ∨ ∃ status trailers, ending = [.finish status trailers])

end ResponsePart

namespace ResponseOrder

variable {α : Type}

/-- The order after a whole sequence. -/
def after (order : ResponseOrder) (parts : List (ResponsePart α)) : ResponseOrder :=
  parts.foldl (fun order part => (order.allow part).2) order

@[simp] theorem after_nil (order : ResponseOrder) :
    order.after ([] : List (ResponsePart α)) = order := rfl

@[simp] theorem after_cons (order : ResponseOrder) (part : ResponsePart α)
    (rest : List (ResponsePart α)) :
    order.after (part :: rest) = (order.allow part).2.after rest := rfl

theorem after_append (order : ResponseOrder) (first second : List (ResponsePart α)) :
    order.after (first ++ second) = (order.after first).after second := by
  unfold after
  rw [List.foldl_append]

theorem allowAll_append (order : ResponseOrder) (first second : List (ResponsePart α)) :
    order.allowAll (first ++ second) =
      order.allowAll first ++ (order.after first).allowAll second := by
  induction first generalizing order with
  | nil => rfl
  | cons part rest ih => simp [allowAll, ih]

@[simp] theorem after_ended (parts : List (ResponsePart α)) : ended.after parts = ended := by
  induction parts with
  | nil => rfl
  | cons part rest ih => simpa using ih

/-- An end among the parts closes the filter. -/
theorem after_of_finish {parts : List (ResponsePart α)}
    (h : parts.any ResponsePart.isFinish = true) (order : ResponseOrder) :
    order.after parts = ended := by
  induction parts generalizing order with
  | nil => cases h
  | cons part rest ih =>
    rw [List.any_cons, Bool.or_eq_true] at h
    rcases h with h | h
    · cases part with
      | headers m => cases h
      | message a flags => cases h
      | finish status trailers => simp
    · exact ih h _

/-- Only an end closes the filter. -/
theorem finish_of_allow_ended {order : ResponseOrder} {part : ResponsePart α}
    (hopen : order ≠ ended) (h : (order.allow part).2 = ended) : part.isFinish = true := by
  cases order <;> cases part <;> simp_all [allow, ResponsePart.isFinish]

/-- An open filter admits an end. -/
theorem allow_of_finish {order : ResponseOrder} {part : ResponsePart α} (hopen : order ≠ ended)
    (h : part.isFinish = true) : (order.allow part).1.any ResponsePart.isFinish = true := by
  cases order <;> cases part <;> simp_all [allow, ResponsePart.isFinish]

/-- The sequences of parts that have passed when the filter stands at an order. -/
inductive Passed : List (ResponsePart α) → ResponseOrder → Prop where
  | nothing : Passed [] fresh
  | headers (m : Metadata) : Passed [.headers m] streaming
  | message {parts : List (ResponsePart α)} (passed : Passed parts streaming) (a : α)
      (flags : MessageFlags) : Passed (parts ++ [.message a flags]) streaming
  | finish {parts : List (ResponsePart α)} {order : ResponseOrder} (passed : Passed parts order)
      (open_ : order ≠ ended) (status : Status) (trailers : Metadata) :
      Passed (parts ++ [.finish status trailers]) ended

/-- Nothing has passed a fresh filter, and only a fresh one. -/
theorem Passed.eq_nil_iff {parts : List (ResponsePart α)} {order : ResponseOrder}
    (passed : Passed parts order) : parts = [] ↔ order = fresh := by
  cases passed <;> simp

/-- Before the end there are no parts, or headers and then messages. -/
theorem Passed.body_of_open {parts : List (ResponsePart α)} {order : ResponseOrder}
    (passed : Passed parts order) (open_ : order ≠ ended) :
    parts = [] ∨ ∃ m messages, parts = .headers m :: messages ∧
      ∀ part ∈ messages, part.isMessage = true := by
  induction passed with
  | nothing => exact Or.inl rfl
  | headers m => exact Or.inr ⟨m, [], rfl, by simp⟩
  | finish passed open_' status trailers ih => exact absurd rfl open_
  | message passed a flags ih =>
    rcases ih (by simp) with rfl | ⟨m, messages, rfl, all⟩
    · cases passed.eq_nil_iff.mp rfl
    · refine Or.inr ⟨m, messages ++ [.message a flags], rfl, fun part member => ?_⟩
      rcases List.mem_append.mp member with member | member
      · exact all part member
      · rw [List.mem_singleton.mp member]
        rfl

/-- Once an end has passed, the filter is closed. -/
theorem Passed.ended_of_finish {parts : List (ResponsePart α)} {order : ResponseOrder}
    (passed : Passed parts order) (finishes : parts.any ResponsePart.isFinish = true) :
    order = ended := by
  induction passed with
  | nothing => cases finishes
  | headers m => cases finishes
  | finish passed open_ status trailers => rfl
  | message passed a flags ih =>
    rw [List.any_append, Bool.or_eq_true] at finishes
    exact ih (finishes.resolve_right Bool.false_ne_true)

/-- What is let through of a part passes behind what has passed, also where a message has no
encoding. -/
theorem Passed.allow {β ε : Type} {parts : List (ResponsePart β)} {order : ResponseOrder}
    (passed : Passed parts order) (encode : α → Except ε β) (part : ResponsePart α) :
    Passed (parts ++ (order.allow part).1.filterMap fun part => (part.tryMap encode).toOption)
      (order.allow part).2 := by
  have message : ∀ {parts : List (ResponsePart β)}, Passed parts streaming → ∀ a flags,
      Passed (parts ++ [ResponsePart.message a flags].filterMap fun part =>
        (part.tryMap encode).toOption) streaming := by
    intro parts passed a flags
    cases encoded : encode a with
    | ok payload =>
      rw [List.filterMap_cons_some (b := .message payload flags)]
      · exact passed.message payload flags
      · simp only [ResponsePart.tryMap, encoded]
        rfl
    | error e =>
      rw [List.filterMap_cons_none]
      · rw [List.filterMap_nil, List.append_nil]
        exact passed
      · simp only [ResponsePart.tryMap, encoded]
        rfl
  cases order with
  | ended =>
    rw [allow_ended]
    rwa [List.filterMap_nil, List.append_nil]
  | fresh =>
    obtain rfl := passed.eq_nil_iff.mpr rfl
    cases part with
    | headers m => exact .headers m
    | message a flags => exact message (.headers .empty) a flags
    | finish status trailers => exact passed.finish (by simp) status trailers
  | streaming =>
    cases part with
    | headers m => rwa [show (streaming.allow (.headers m : ResponsePart α)) = ([], streaming) from
        rfl, List.filterMap_nil, List.append_nil]
    | message a flags => exact message passed a flags
    | finish status trailers => exact passed.finish (by simp) status trailers

theorem Passed.wellFormed {parts : List (ResponsePart α)} {order : ResponseOrder}
    (passed : Passed parts order) : ResponsePart.WellFormed parts := by
  cases passed with
  | nothing => exact ⟨[], [], rfl, Or.inl rfl, Or.inl rfl⟩
  | headers m => exact ⟨[.headers m], [], rfl, Or.inr ⟨m, [], rfl, by simp⟩, Or.inl rfl⟩
  | message passed a flags =>
    have body := (Passed.message passed a flags).body_of_open (by simp)
    exact ⟨_, [], (List.append_nil _).symm, body, Or.inl rfl⟩
  | finish passed open_ status trailers =>
    exact ⟨_, _, rfl, passed.body_of_open open_, Or.inr ⟨status, trailers, rfl⟩⟩

/-- What came first of it is well-formed, too. -/
theorem Passed.wellFormed_of_prefix {first parts : List (ResponsePart α)} {order : ResponseOrder}
    (passed : Passed parts order) (leads : first <+: parts) : ResponsePart.WellFormed first := by
  have shorter : ∃ order', Passed first order' := by
    induction passed with
    | nothing =>
      rw [List.prefix_nil.mp leads]
      exact ⟨_, .nothing⟩
    | headers m =>
      rcases List.prefix_concat_iff.mp (show first <+: [] ++ [.headers m] from leads) with
        rfl | none
      · exact ⟨_, .headers m⟩
      · rw [List.prefix_nil.mp none]
        exact ⟨_, .nothing⟩
    | message passed a flags ih =>
      rcases List.prefix_concat_iff.mp leads with rfl | earlier
      · exact ⟨_, passed.message a flags⟩
      · exact ih earlier
    | finish passed isOpen status trailers ih =>
      rcases List.prefix_concat_iff.mp leads with rfl | earlier
      · exact ⟨_, passed.finish isOpen status trailers⟩
      · exact ih earlier
  exact shorter.elim fun _ passed => passed.wellFormed

end ResponseOrder

end RemoteCall
