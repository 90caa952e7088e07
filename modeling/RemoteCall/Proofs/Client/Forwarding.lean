import RemoteCall.Client.Forwarder
import RemoteCall.Proofs.Client.RequestSide

/-!
# The moves of a forwarder

A forwarder hands its parts over one at a time, so a send of it is refused, or its part enters the
chain. `Forwarder.Moves` says all that a move can come of, and `Forwarder.move?_eq_none` what a
forwarder that cannot move waits for.
-/

namespace RemoteCall.Client

variable {σ P Req Resp : Type}

theorem Call.send_singleton_of_refusal {setup : Setup σ P Req Resp} {call : Call σ Resp}
    {e : CallError} (part : RequestPart Req)
    (refused : (Pass.start call : Pass σ P Resp).refusal? = some e) :
    call.send setup [part] = (.error e, .start call) := by
  rw [Call.send_eq, (Pass.enqueue_of_refusal refused).1]
  rfl

theorem Call.send_singleton_of_free {setup : Setup σ P Req Resp} {call : Call σ Resp}
    (part : RequestPart Req) (free : (Pass.start call : Pass σ P Resp).refusal? = none) :
    call.send setup [part] =
      (.ok (Pass.enter setup part (.start call)).receipts,
        Pass.enter setup part (.start call)) := by
  rw [Call.send_eq, (Pass.enqueue_of_free free).1]
  rfl

namespace Forwarder

/-- What comes next: a failure or a message of the source, or the end behind it. -/
theorem next?_cases {setup : Setup σ P Req Resp} {f : Forwarder Req}
    {result : Result (RequestPart Req × Forwarder Req)} (next? : f.next? setup = some result) :
    (∃ e rest, f.items = .error e :: rest ∧ result = .error e) ∨
    (∃ message rest, f.items = .ok message :: rest ∧
      result = .ok (setup.message message .deferred, { f with items := rest })) ∨
    f.items = [] ∧ f.ends = true ∧ result = .ok (.finish, { f with closing := true }) := by
  obtain ⟨items, ends, awaited, closing⟩ := f
  cases items with
  | nil =>
    obtain ⟨ends, same⟩ := Option.ite_none_right_eq_some.mp next?
    exact .inr (.inr ⟨rfl, ends, (Option.some.inj same).symm⟩)
  | cons item rest =>
    cases item with
    | error e => exact .inl ⟨e, rest, rfl, (Option.some.inj next?).symm⟩
    | ok message => exact .inr (.inl ⟨message, rest, rfl, (Option.some.inj next?).symm⟩)

/-- What a move of a forwarder comes of. -/
inductive Moves (setup : Setup σ P Req Resp) (signals : Nat → Signal) (call : Call σ Resp)
    (f : Forwarder Req) : Turn (Forwarder Req) (Result Unit) → Pass σ P Resp → Prop where
  | rejected {e : CallError} (rejected : Receipt.awaitAll signals f.awaited = some (.error e)) :
      Moves setup signals call f (.done (.error e)) (.start call)
  | closed (closing : f.closing = true) : Moves setup signals call f (.done (.ok ())) (.start call)
  | failed {e : CallError} {rest : List (Result Req)} (open_ : f.closing = false)
      (items : f.items = .error e :: rest) :
      Moves setup signals call f (.done (.error e)) (.start call)
  | sends {part : RequestPart Req} {next : Forwarder Req} (open_ : f.closing = false)
      (next? : f.next? setup = some (.ok (part, next)))
      (free : (Pass.start call : Pass σ P Resp).refusal? = none) :
      Moves setup signals call f
        (.goesOn { next with awaited := (Pass.enter setup part (.start call)).receipts })
        (Pass.enter setup part (.start call))
  | refused {part : RequestPart Req} {next : Forwarder Req} {e : CallError}
      (open_ : f.closing = false) (next? : f.next? setup = some (.ok (part, next)))
      (refused : (Pass.start call : Pass σ P Resp).refusal? = some e) :
      Moves setup signals call f (.done (.error e)) (.start call)

theorem moves_of_move? {setup : Setup σ P Req Resp} {signals : Nat → Signal}
    {call : Call σ Resp} {f : Forwarder Req} {turn : Turn (Forwarder Req) (Result Unit)}
    {p : Pass σ P Resp} (moved : f.move? setup signals call = some (turn, p)) :
    f.Moves setup signals call turn p := by
  unfold move? at moved
  cases accepted : Receipt.awaitAll signals f.awaited with
  | none =>
    rw [accepted] at moved
    cases moved
  | some result =>
    rw [accepted] at moved
    cases result with
    | error e =>
      cases moved
      exact .rejected accepted
    | ok u =>
      cases closing : f.closing with
      | true =>
        simp only [closing, if_true] at moved
        cases moved
        exact .closed closing
      | false =>
        simp only [closing, Bool.false_eq_true, if_false] at moved
        cases next? : f.next? setup with
        | none =>
          rw [next?] at moved
          cases moved
        | some next =>
          rw [next?] at moved
          cases next with
          | error e =>
            obtain ⟨e', rest, items, same⟩ | ⟨message, rest, -, same⟩ | ⟨-, -, same⟩ :=
              next?_cases next?
            all_goals cases same
            cases moved
            exact .failed closing items
          | ok next =>
            obtain ⟨part, next⟩ := next
            cases refused : (Pass.start call : Pass σ P Resp).refusal? with
            | none =>
              simp only [Call.send_singleton_of_free part refused] at moved
              cases moved
              exact .sends closing next? refused
            | some e =>
              simp only [Call.send_singleton_of_refusal part refused] at moved
              cases moved
              exact .refused closing next? refused

/-- A forwarder that cannot move waits for an acceptance or for a silent source. -/
theorem move?_eq_none {setup : Setup σ P Req Resp} {signals : Nat → Signal}
    {call : Call σ Resp} {f : Forwarder Req} (rest : f.move? setup signals call = none) :
    Receipt.awaitAll signals f.awaited = none ∨
      f.closing = false ∧ f.items = [] ∧ f.ends = false := by
  obtain ⟨items, ends, awaited, closing⟩ := f
  unfold move? at rest
  cases accepted : Receipt.awaitAll signals awaited with
  | none => exact .inl rfl
  | some result =>
    simp only [accepted] at rest
    cases result with
    | error e => cases rest
    | ok u =>
      cases closing with
      | true => cases rest
      | false =>
        cases items with
        | nil =>
          cases ends with
          | false => exact .inr ⟨rfl, rfl, rfl⟩
          | true =>
            rcases sent : call.send setup [.finish] with ⟨result, p⟩
            simp only [next?, if_true, sent] at rest
            cases result <;> cases rest
        | cons item items =>
          cases item with
          | error e => cases rest
          | ok message =>
            rcases sent : call.send setup [setup.message message .deferred] with ⟨result, p⟩
            simp only [next?, sent] at rest
            cases result <;> cases rest

/-- The end is what comes last. -/
theorem closing_of_next? {setup : Setup σ P Req Resp} {f next : Forwarder Req}
    {part : RequestPart Req} (open_ : f.closing = false)
    (next? : f.next? setup = some (.ok (part, next))) :
    next.closing = (part.kind == .finish) := by
  obtain ⟨e, rest, -, same⟩ | ⟨message, rest, -, same⟩ | ⟨-, -, same⟩ := next?_cases next?
  · cases same
  · cases same
    exact open_
  · cases same
    rfl

end Forwarder

end RemoteCall.Client
