import RemoteCall.Client.Outcome
import RemoteCall.Proofs.ResponseOrder

/-!
# What an accumulator keeps

A call is concluded once its status is there. `Accumulator.Whole` says that the other slots and
the response go with the status: no part and no failure settles only some of them.
`Accumulator.Sound` counts the messages besides: where one message is allowed, the first settles
the response and the second concludes the call.
-/

namespace RemoteCall

namespace Client

/-- Whether nothing more is taken for the response: the one message is there or failed, or the
stream is finished. -/
def Response.isSettled {Resp : Type} : Response Resp → Bool
  | .single message _ => message.isResolved
  | .stream messages => messages.isFinished

namespace Accumulator

variable {Resp : Type}

def isConcluded (a : Accumulator Resp) : Bool := a.outcome.status.isResolved

/-- All slots are settled with the status, and the trailers only with it. -/
structure Whole (a : Accumulator Resp) : Prop where
  trailing : a.isConcluded = a.outcome.trailing.isResolved
  initial : a.isConcluded = true → a.outcome.initial.isResolved = true
  response : a.isConcluded = true → a.response.isSettled = true

@[simp] theorem isSettled_fail (r : Response Resp) (e : CallError) :
    (r.fail e).isSettled = true := by
  cases r <;> simp [Response.fail, Response.isSettled]

@[simp] theorem isConcluded_fail (a : Accumulator Resp) (e : CallError) :
    (a.fail e).isConcluded = true := by
  simp [fail, isConcluded, Outcome.fail]

theorem whole_fail (a : Accumulator Resp) (e : CallError) : (a.fail e).Whole where
  trailing := by simp [fail, isConcluded, Outcome.fail]
  initial _ := by simp [fail, Outcome.fail]
  response _ := isSettled_fail a.response e

/-- What a part does to an accumulator whose response is one message. -/
theorem accept_single (outcome : Outcome) (message : WriteOnce (Result Resp))
    (violation : Option CallError) (part : ResponsePart Resp) :
    (accept ⟨outcome, .single message violation⟩ part).1 =
      match part with
      | .headers m => ⟨outcome.headers m, .single message violation⟩
      | .message m _ =>
        if message.isResolved then
          fail ⟨outcome, .single message (some (violation.getD manyMessages))⟩ manyMessages
        else ⟨outcome, .single (message.settle (.ok m)) violation⟩
      | .finish status trailers => finishSingle outcome message violation status trailers := by
  cases part with
  | headers m => rfl
  | finish status trailers => rfl
  | message m flags =>
    simp only [accept]
    by_cases h : message.isResolved = true
    · rw [if_pos h, if_pos h]
    · rw [if_neg h, if_neg h]

/-- What a part does to an accumulator whose response is a stream. -/
theorem accept_stream (outcome : Outcome) (messages : MessageStream Resp)
    (part : ResponsePart Resp) :
    (accept ⟨outcome, .stream messages⟩ part).1 =
      match part with
      | .headers m => ⟨outcome.headers m, .stream messages⟩
      | .message m _ => ⟨outcome, .stream (messages.push m).2⟩
      | .finish status trailers => finishStream outcome messages status trailers := by
  cases part <;> rfl

/-- The status that an end leads to: a success without a message is a failure. -/
def endStatus (message : WriteOnce (Result Resp)) (status : Status) : Status :=
  if message.isResolved || !status.isOk then status else noMessage.toStatus

/-- What an end leaves for a message that never came. -/
def missing (status : Status) : CallError := if status.isOk then noMessage else .status status

/-- An end settles every slot in one way; only the status and the failure depend on the case. -/
theorem finishSingle_eq (outcome : Outcome) (message : WriteOnce (Result Resp))
    (violation : Option CallError) (status : Status) (trailers : Metadata) :
    finishSingle outcome message violation status trailers =
      ⟨(outcome.finish status trailers).conclude (endStatus message status),
        .single (message.settle (.error (missing status))) violation⟩ := by
  unfold finishSingle endStatus missing
  by_cases hmessage : message.isResolved = true
  · simp [hmessage, WriteOnce.settle_of_isResolved]
  · by_cases hok : status.isOk = true
    · simp [hmessage, hok]
    · simp [hmessage, hok]

theorem whole_finishSingle (outcome : Outcome) (message : WriteOnce (Result Resp))
    (violation : Option CallError) (status : Status) (trailers : Metadata) :
    (finishSingle outcome message violation status trailers).Whole := by
  rw [finishSingle_eq]
  constructor <;> simp [isConcluded, Outcome.conclude, Outcome.finish, Response.isSettled]

theorem whole_finishStream (outcome : Outcome) (messages : MessageStream Resp) (status : Status)
    (trailers : Metadata) : (finishStream outcome messages status trailers).Whole := by
  unfold finishStream
  constructor <;> simp [isConcluded, Outcome.conclude, Outcome.finish, Response.isSettled]

theorem isConcluded_accept_finish (a : Accumulator Resp) (status : Status) (trailers : Metadata) :
    (a.accept (.finish status trailers)).1.isConcluded = true := by
  obtain ⟨outcome, response⟩ := a
  cases response with
  | single message violation =>
    rw [accept_single]
    simp [finishSingle_eq, isConcluded, Outcome.conclude]
  | stream messages =>
    rw [accept_stream]
    simp [finishStream, isConcluded, Outcome.conclude]

/-- A message for a response that has its one message concludes. -/
theorem isConcluded_accept_second {a : Accumulator Resp} (hsingle : a.response.stream? = none)
    (hsettled : a.response.isSettled = true) (m : Resp) (flags : MessageFlags) :
    (a.accept (.message m flags)).1.isConcluded = true := by
  obtain ⟨outcome, response⟩ := a
  cases response with
  | stream messages => cases hsingle
  | single message violation =>
    rw [accept_single]
    simp only [show message.isResolved = true from hsettled, if_true, isConcluded_fail]

theorem isSettled_accept_message {a : Accumulator Resp} (hsingle : a.response.stream? = none)
    (m : Resp) (flags : MessageFlags) :
    (a.accept (.message m flags)).1.response.isSettled = true := by
  obtain ⟨outcome, response⟩ := a
  cases response with
  | stream messages => cases hsingle
  | single message violation =>
    rw [accept_single]
    by_cases h : message.isResolved = true
    · simp [h, fail]
    · simp [h, Response.isSettled]

theorem whole_accept {a : Accumulator Resp} (whole : a.Whole) (part : ResponsePart Resp) :
    (a.accept part).1.Whole := by
  obtain ⟨outcome, response⟩ := a
  cases response with
  | single message violation =>
    rw [accept_single]
    cases part with
    | finish status trailers => exact whole_finishSingle outcome message violation status trailers
    | headers m => exact ⟨whole.trailing, fun _ => by simp [Outcome.headers], whole.response⟩
    | message m flags =>
      by_cases h : message.isResolved = true
      · simp only [h, if_true]
        exact whole_fail _ _
      · simp only [h]
        exact ⟨whole.trailing, whole.initial, fun _ => by simp [Response.isSettled]⟩
  | stream messages =>
    rw [accept_stream]
    cases part with
    | finish status trailers => exact whole_finishStream outcome messages status trailers
    | headers m => exact ⟨whole.trailing, fun _ => by simp [Outcome.headers], whole.response⟩
    | message m flags =>
      refine ⟨whole.trailing, whole.initial, fun concluded => ?_⟩
      have finished : messages.isFinished = true := whole.response concluded
      simp only [Response.isSettled, MessageStream.push_of_isFinished finished]
      exact finished

/-- A status that is there stays. -/
theorem status_fail {a : Accumulator Resp} (h : a.isConcluded = true) (e : CallError) :
    (a.fail e).outcome.status = a.outcome.status :=
  WriteOnce.settle_of_isResolved h _

theorem status_accept {a : Accumulator Resp} (h : a.isConcluded = true)
    (part : ResponsePart Resp) : (a.accept part).1.outcome.status = a.outcome.status := by
  have settled : ∀ status, a.outcome.status.settle status = a.outcome.status :=
    WriteOnce.settle_of_isResolved h
  obtain ⟨outcome, response⟩ := a
  cases response with
  | single message violation =>
    rw [accept_single]
    cases part with
    | headers m => rfl
    | finish status trailers =>
      simp only [finishSingle_eq]
      exact settled _
    | message m flags =>
      by_cases hmessage : message.isResolved = true
      · simp only [hmessage, if_true]
        exact settled _
      · simp only [hmessage]
        rfl
  | stream messages =>
    rw [accept_stream]
    cases part with
    | headers m => rfl
    | message m flags => rfl
    | finish status trailers => exact settled status

theorem isConcluded_accept {a : Accumulator Resp} (h : a.isConcluded = true)
    (part : ResponsePart Resp) : (a.accept part).1.isConcluded = true := by
  unfold isConcluded
  rw [status_accept h part]
  exact h

theorem isSettled_accept {a : Accumulator Resp} (h : a.response.isSettled = true)
    (part : ResponsePart Resp) : (a.accept part).1.response.isSettled = true := by
  obtain ⟨outcome, response⟩ := a
  cases response with
  | single message violation =>
    have hmessage : message.isResolved = true := h
    rw [accept_single]
    cases part with
    | headers m => exact h
    | finish status trailers => simp [finishSingle_eq, Response.isSettled]
    | message m flags => simp [hmessage, fail]
  | stream messages =>
    have finished : messages.isFinished = true := h
    rw [accept_stream]
    cases part with
    | headers m => exact h
    | finish status trailers => simp [finishStream, Response.isSettled]
    | message m flags =>
      simp only [Response.isSettled, MessageStream.push_of_isFinished finished]
      exact finished

/-- The kind of the response never changes. -/
theorem stream?_isSome_fail (a : Accumulator Resp) (e : CallError) :
    (a.fail e).response.stream?.isSome = a.response.stream?.isSome := by
  obtain ⟨outcome, response⟩ := a
  cases response <;> rfl

theorem stream?_isSome_accept (a : Accumulator Resp) (part : ResponsePart Resp) :
    (a.accept part).1.response.stream?.isSome = a.response.stream?.isSome := by
  obtain ⟨outcome, response⟩ := a
  cases response with
  | stream messages =>
    rw [accept_stream]
    cases part <;> rfl
  | single message violation =>
    rw [accept_single]
    cases part with
    | headers m => rfl
    | finish status trailers => simp [finishSingle_eq, Response.stream?]
    | message m flags =>
      by_cases hmessage : message.isResolved = true
      · simp [hmessage, fail, Response.fail, Response.stream?]
      · simp [hmessage, Response.stream?]

/-- The only violation there is. -/
def SpoiledByMany (a : Accumulator Resp) : Prop :=
  ∀ message violation, a.response = .single message (some violation) → violation = manyMessages

theorem spoiledByMany_fail {a : Accumulator Resp} (h : a.SpoiledByMany) (e : CallError) :
    (a.fail e).SpoiledByMany := by
  obtain ⟨outcome, response⟩ := a
  intro message violation hfail
  cases response with
  | stream messages => cases hfail
  | single message' violation' =>
    cases hfail
    exact h message' violation rfl

theorem spoiledByMany_accept {a : Accumulator Resp} (h : a.SpoiledByMany)
    (part : ResponsePart Resp) : (a.accept part).1.SpoiledByMany := by
  obtain ⟨outcome, response⟩ := a
  cases response with
  | stream messages =>
    rw [accept_stream]
    intro message violation haccept
    cases part <;> cases haccept
  | single message violation =>
    have many : violation.getD manyMessages = manyMessages := by
      cases violation with
      | none => rfl
      | some v => exact h message v rfl
    rw [accept_single]
    intro message' violation' haccept
    cases part with
    | headers m =>
      cases haccept
      exact h message violation' rfl
    | finish status trailers =>
      simp only [finishSingle_eq, Response.single.injEq] at haccept
      exact h message violation' (by rw [haccept.2])
    | message m flags =>
      by_cases hmessage : message.isResolved = true
      · simp only [hmessage, if_true, fail, Response.fail, Response.single.injEq,
          Option.some.injEq] at haccept
        rw [← haccept.2, many]
      · simp only [hmessage, Bool.false_eq_true, if_false, Response.single.injEq] at haccept
        exact h message violation' (by rw [haccept.2])

theorem isConcluded_of_violation {a : Accumulator Resp} {part : ResponsePart Resp}
    (h : (a.accept part).2 = true) : (a.accept part).1.isConcluded = true := by
  obtain ⟨outcome, response⟩ := a
  cases part with
  | headers m => cases h
  | finish status trailers => exact isConcluded_accept_finish _ status trailers
  | message m flags =>
    cases response with
    | stream messages => cases h
    | single message violation =>
      by_cases hmessage : message.isResolved = true
      · exact isConcluded_accept_second (a := ⟨outcome, .single message violation⟩) rfl hmessage
          m flags
      · simp only [accept, hmessage] at h
        cases h

/-- What holds of an accumulator that has received so many messages. -/
structure Sound (streams : Bool) (received : Nat) (a : Accumulator Resp) : Prop where
  kind : a.response.stream?.isSome = streams
  whole : a.Whole
  many : a.SpoiledByMany
  first : streams = false → 1 ≤ received → a.response.isSettled = true
  second : streams = false → 2 ≤ received → a.isConcluded = true

theorem Sound.stream?_eq_none {received : Nat} {a : Accumulator Resp}
    (sound : a.Sound false received) : a.response.stream? = none := by
  have kind := sound.kind
  cases h : a.response.stream? with
  | none => rfl
  | some messages =>
    rw [h] at kind
    cases kind

theorem sound_fail {streams : Bool} {received : Nat} {a : Accumulator Resp}
    (sound : a.Sound streams received) (e : CallError) : (a.fail e).Sound streams received where
  kind := (stream?_isSome_fail a e).trans sound.kind
  whole := whole_fail a e
  many := spoiledByMany_fail sound.many e
  first _ _ := isSettled_fail a.response e
  second _ _ := isConcluded_fail a e

theorem sound_accept {streams : Bool} {received : Nat} {a : Accumulator Resp}
    (sound : a.Sound streams received) (part : ResponsePart Resp) :
    (a.accept part).1.Sound streams (received + part.isMessage.toNat) where
  kind := (stream?_isSome_accept a part).trans sound.kind
  whole := whole_accept sound.whole part
  many := spoiledByMany_accept sound.many part
  first hsingle hreceived := by
    subst hsingle
    cases part with
    | message m flags => exact isSettled_accept_message sound.stream?_eq_none m flags
    | headers m => exact isSettled_accept (sound.first rfl hreceived) _
    | finish status trailers => exact isSettled_accept (sound.first rfl hreceived) _
  second hsingle hreceived := by
    subst hsingle
    cases part with
    | message m flags =>
      have settled := sound.first rfl (Nat.le_of_succ_le_succ hreceived)
      exact isConcluded_accept_second sound.stream?_eq_none settled m flags
    | headers m => exact isConcluded_accept (sound.second rfl hreceived) _
    | finish status trailers => exact isConcluded_accept (sound.second rfl hreceived) _

def acceptAll (a : Accumulator Resp) (parts : List (ResponsePart Resp)) : Accumulator Resp :=
  parts.foldl (fun a part => (a.accept part).1) a

theorem sound_acceptAll {streams : Bool} {received : Nat} {a : Accumulator Resp}
    (sound : a.Sound streams received) (parts : List (ResponsePart Resp)) :
    (a.acceptAll parts).Sound streams (received + parts.countP ResponsePart.isMessage) := by
  induction parts generalizing a received with
  | nil => exact sound
  | cons part rest ih =>
    have count : received + (part :: rest).countP ResponsePart.isMessage =
        received + part.isMessage.toNat + rest.countP ResponsePart.isMessage := by
      rw [List.countP_cons]
      cases part.isMessage with
      | true =>
        simp only [if_true, Bool.toNat_true]
        omega
      | false =>
        simp only [Bool.false_eq_true, if_false, Bool.toNat_false]
        omega
    rw [count]
    exact ih (sound_accept sound part)

theorem isConcluded_acceptAll {a : Accumulator Resp} (h : a.isConcluded = true)
    (parts : List (ResponsePart Resp)) : (a.acceptAll parts).isConcluded = true := by
  induction parts generalizing a with
  | nil => exact h
  | cons part rest ih => exact ih (isConcluded_accept h part)

theorem status_acceptAll {a : Accumulator Resp} (h : a.isConcluded = true)
    (parts : List (ResponsePart Resp)) :
    (a.acceptAll parts).outcome.status = a.outcome.status := by
  induction parts generalizing a with
  | nil => rfl
  | cons part rest ih => exact (ih (isConcluded_accept h part)).trans (status_accept h part)

/-- An end among the parts concludes. -/
theorem isConcluded_acceptAll_of_finish {parts : List (ResponsePart Resp)}
    (h : parts.any ResponsePart.isFinish = true) (a : Accumulator Resp) :
    (a.acceptAll parts).isConcluded = true := by
  induction parts generalizing a with
  | nil => cases h
  | cons part rest ih =>
    rw [List.any_cons, Bool.or_eq_true] at h
    rcases h with h | h
    · cases part with
      | headers m => cases h
      | message m flags => cases h
      | finish status trailers =>
        exact isConcluded_acceptAll (isConcluded_accept_finish a status trailers) rest
    · exact ih h _

theorem sound_fresh (streams : Bool) :
    ({ response := if streams then .freshStream else .freshSingle } : Accumulator Resp).Sound
      streams 0 := by
  cases streams with
  | false =>
    refine ⟨rfl, ⟨rfl, (fun h => nomatch h), (fun h => nomatch h)⟩, ?_, ?_, ?_⟩
    · intro message violation h
      cases h
    · intro _ h
      omega
    · intro _ h
      omega
  | true =>
    refine ⟨rfl, ⟨rfl, (fun h => nomatch h), (fun h => nomatch h)⟩, ?_, ?_, ?_⟩
    · intro message violation h
      cases h
    · intro h
      cases h
    · intro h
      cases h

/-- A change of the stream that does not touch its end keeps the accumulator sound. -/
theorem sound_mapStream {streams : Bool} {received : Nat} {a : Accumulator Resp}
    (sound : a.Sound streams received) {f : MessageStream Resp → MessageStream Resp}
    (hf : ∀ s, (f s).isFinished = s.isFinished) :
    ({ a with response := a.response.mapStream f } : Accumulator Resp).Sound streams received := by
  obtain ⟨outcome, response⟩ := a
  cases response with
  | single message violation => exact sound
  | stream messages =>
    have settled : (Response.stream (f messages)).isSettled = messages.isFinished := hf messages
    refine ⟨sound.kind, ⟨sound.whole.trailing, sound.whole.initial, ?_⟩, ?_, ?_, ?_⟩
    · intro concluded
      exact settled.trans (sound.whole.response concluded)
    · intro message violation h
      cases h
    · intro hsingle hreceived
      exact settled.trans (sound.first hsingle hreceived)
    · intro hsingle hreceived
      exact sound.second hsingle hreceived

end Accumulator

end Client

end RemoteCall
