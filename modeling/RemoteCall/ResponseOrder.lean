import RemoteCall.Part

/-!
# The order of response parts

A well-formed response is at most one `headers` part, ahead of every message, then messages, and
at most one `finish`. `ResponseOrder.allow` turns any sequence of parts into a well-formed one:
it puts empty headers ahead of a message that comes without any, drops headers that come late or
twice, and drops everything after the first `finish`.
-/

namespace RemoteCall

/-- How much of a response has passed. -/
inductive ResponseOrder where
  /-- Nothing yet. -/
  | fresh
  /-- The headers have passed. -/
  | streaming
  /-- The end has passed. -/
  | ended
  deriving DecidableEq, Inhabited

namespace ResponseOrder

variable {α : Type}

/-- What is let through when a part arrives, and the order after it. -/
def allow : ResponseOrder → ResponsePart α → List (ResponsePart α) × ResponseOrder
  | ended, _ => ([], ended)
  | fresh, .headers m => ([.headers m], streaming)
  | fresh, .message a flags => ([.headers .empty, .message a flags], streaming)
  | streaming, .headers _ => ([], streaming)
  | streaming, .message a flags => ([.message a flags], streaming)
  | _, .finish status trailers => ([.finish status trailers], ended)

/-- What is let through of a whole sequence. -/
def allowAll : ResponseOrder → List (ResponsePart α) → List (ResponsePart α)
  | _, [] => []
  | order, part :: rest => (order.allow part).1 ++ (order.allow part).2.allowAll rest

@[simp] theorem allow_ended (part : ResponsePart α) : ended.allow part = ([], ended) := by
  cases part <;> rfl

@[simp] theorem allowAll_ended (parts : List (ResponsePart α)) : ended.allowAll parts = [] := by
  induction parts with
  | nil => rfl
  | cons part rest ih => simp [allowAll, ih]

@[simp] theorem allow_finish_snd (order : ResponseOrder) (status : Status)
    (trailers : Metadata) : (order.allow (.finish status trailers : ResponsePart α)).2 = ended := by
  cases order <;> rfl

end ResponseOrder

end RemoteCall
