import RemoteCall.Proofs.Server.Floor

/-!
# The record of a call

What happens at the edges of a call, and what passes its outbound gate, is recorded in order. Each
entry of the record fits what stands before it (`Act.Record`): headers and trailers are those staged
since they were last taken, and an end that passes has the trailers that its own attempt has taken.
However the operations of a call without interceptors overlap, the record fits, and each of its
entries belongs to an operation that was begun (`Overlap.founded_run`).
-/

namespace RemoteCall.Server

open Routine

variable {σ P Req Resp : Type}

namespace Act

variable {acts : List (Act Req Resp)}

/-- The headers that were taken ahead of the first part. -/
def opening? (acts : List (Act Req Resp)) : Option Metadata :=
  acts.findSome? fun
    | .opens staged => some staged
    | _ => none

/-- What has passed the outbound gate. -/
def passed (acts : List (Act Req Resp)) : List (ResponsePart Resp) :=
  acts.filterMap fun
    | .passes part => some part
    | _ => none

/-- The headers that were staged since they were last taken. -/
def headers (acts : List (Act Req Resp)) : Metadata :=
  acts.foldl (fun staged act =>
    match act with
    | .header name value => staged.insert name value
    | .opens _ => .empty
    | _ => staged) .empty

/-- The trailers that were staged since they were last taken. -/
def trailers (acts : List (Act Req Resp)) : Metadata :=
  acts.foldl (fun staged act =>
    match act with
    | .trailer name value => staged.insert name value
    | .takes _ _ => .empty
    | _ => staged) .empty

/-- Whether an entry of the record fits what stands before it. -/
def Fits (before : List (Act Req Resp)) : Act Req Resp → Prop
  | .opens staged => staged = headers before
  | .takes _ staged => staged = trailers before
  | .passes (.finish status staged) => .takes status staged ∈ before
  | _ => True

/-- Every entry fits what stands before it. -/
def Record (acts : List (Act Req Resp)) : Prop :=
  ∀ before act after, acts = before ++ act :: after → act.Fits before

theorem record_nil : Record ([] : List (Act Req Resp)) := fun before act after split => by
  cases List.append_eq_nil_iff.mp split.symm |>.2

theorem Record.concat (record : Record acts) {act : Act Req Resp} (fits : act.Fits acts) :
    Record (acts ++ [act]) := by
  intro before other after split
  rcases List.eq_nil_or_concat after with rfl | ⟨rest, last, rfl⟩
  · obtain ⟨rfl, same⟩ := List.append_inj' split rfl
    cases List.singleton_inj.mp same
    exact fits
  · rw [List.concat_eq_append, ← List.cons_append, ← List.append_assoc] at split
    obtain ⟨rfl, -⟩ := List.append_inj' split rfl
    exact record before other rest rfl

end Act

/-! ### The record -/

namespace Floor

variable {floor floor' : Floor σ P Req Resp} {place : Place}

/-- The record fits, and what is staged now is what it says. -/
structure Recorded (floor : Floor σ P Req Resp) : Prop where
  record : Act.Record floor.acts
  headers : floor.call.context.responseHeaders = Act.headers floor.acts
  trailers : floor.call.context.trailers = Act.trailers floor.acts

theorem Recorded.log (recorded : floor.Recorded) (act : Act Req Resp)
    (fits : act.Fits floor.acts) {call : Call σ Req}
    (headers : call.context.responseHeaders = Act.headers (floor.acts ++ [act]))
    (trailers : call.context.trailers = Act.trailers (floor.acts ++ [act])) :
    ((floor.mapCall fun _ => call).log act).Recorded :=
  ⟨recorded.record.concat fits, headers, trailers⟩

/-- What is not about what is staged does not matter. -/
theorem Recorded.of_eq (recorded : floor.Recorded) (acts : floor'.acts = floor.acts)
    (headers : floor'.call.context.responseHeaders = floor.call.context.responseHeaders)
    (trailers : floor'.call.context.trailers = floor.call.context.trailers) :
    floor'.Recorded := by
  refine ⟨?_, ?_, ?_⟩ <;> rw [acts]
  · exact recorded.record
  · exact headers.trans recorded.headers
  · exact trailers.trans recorded.trailers

theorem Recorded.use (recorded : floor.Recorded) (how : Use σ) : (floor.use how).Recorded := by
  cases how with
  | stageHeader name value =>
    refine recorded.log (.header name value) trivial ?_ ?_
    · rw [Act.headers, List.foldl_append]
      exact congrArg (·.insert name value) recorded.headers
    · rw [Act.trailers, List.foldl_append]
      exact recorded.trailers
  | stageTrailer name value =>
    refine recorded.log (.trailer name value) trivial ?_ ?_
    · rw [Act.headers, List.foldl_append]
      exact recorded.headers
    · rw [Act.trailers, List.foldl_append]
      exact congrArg (·.insert name value) recorded.trailers
  | allowCompression allowed => exact recorded.of_eq (List.append_nil _) rfl rfl
  | note update => exact recorded.of_eq (List.append_nil _) rfl rfl

theorem Recorded.pass (recorded : floor.Recorded) {part : ResponsePart Resp}
    (taken : ∀ status staged, part = .finish status staged → .takes status staged ∈ floor.acts) :
    (floor.log (.passes part)).Recorded := by
  refine recorded.log (.passes part) ?_ ?_ ?_
  · cases part with
    | headers m => exact trivial
    | message a flags => exact trivial
    | finish status staged => exact taken status staged rfl
  · rw [Act.headers, List.foldl_append]
    exact recorded.headers
  · rw [Act.trailers, List.foldl_append]
    exact recorded.trailers

/-- Whatever is recorded fits, if only what passes the gate does. -/
theorem Step.recorded (step : Step place floor floor') (apart : place ≠ .atGate)
    (recorded : floor.Recorded) : floor'.Recorded := by
  cases step with
  | advance streams part =>
    obtain ⟨inbound, requests, headers, same⟩ := Pass.call_advance streams floor.call part
    refine recorded.log (.arrives part) trivial ?_ ?_
    · rw [same, Act.headers, List.foldl_append]
      exact recorded.headers
    · rw [same, Act.trailers, List.foldl_append]
      exact recorded.trailers
  | takeTrailers status =>
    refine recorded.log (.takes status _) recorded.trailers ?_ ?_
    · rw [Act.headers, List.foldl_append]
      exact recorded.headers
    · rw [Act.trailers, List.foldl_append]
      rfl
  | use how => exact recorded.use how
  | takeHeaders =>
    refine recorded.log (.opens _) recorded.headers ?_ ?_
    · rw [Act.headers, List.foldl_append]
      rfl
    · rw [Act.trailers, List.foldl_append]
      exact recorded.trailers
  | pass part isOpen => exact absurd rfl apart
  | _ => exact recorded.of_eq rfl rfl rfl

end Floor

/-- The record goes on. -/
def Floor.Extends (floor floor' : Floor σ P Req Resp) : Prop := floor.acts <+: floor'.acts

/-- What a step of such an event may do to the record. -/
structure Event.Notes (method : Method σ P Req Resp) (event : Event σ P Req Resp)
    (floor floor' : Floor σ P Req Resp) : Prop where
  goesOn : floor.Extends floor'
  recorded : floor.Recorded → floor'.Recorded
  /-- Trailers are taken for one of its own attempts to end the call. -/
  takes : ∀ status staged, .takes status staged ∈ floor'.acts →
    .takes status staged ∈ floor.acts ∨ event.Attempts method status
  /-- A message that passes the gate is the one that it writes. -/
  passes : ∀ message flags, .passes (.message message flags) ∈ floor'.acts →
    .passes (.message message flags) ∈ floor.acts ∨ event.Writes message

section Notes

variable {method : Method σ P Req Resp} {event : Event σ P Req Resp}
  {floor floor' : Floor σ P Req Resp} {place : Place}

theorem Event.Notes.of_acts (recorded : floor.Recorded → floor'.Recorded)
    {more : List (Act Req Resp)} (acts : floor'.acts = floor.acts ++ more)
    (takes : ∀ status staged, .takes status staged ∈ more → event.Attempts method status)
    (passes : ∀ message flags, .passes (.message message flags) ∈ more → event.Writes message) :
    event.Notes method floor floor' := by
  refine ⟨⟨more, acts.symm⟩, recorded, fun status staged mem => ?_,
    fun message flags mem => ?_⟩ <;> rw [acts] at mem
  · exact (List.mem_append.mp mem).imp_right (takes status staged)
  · exact (List.mem_append.mp mem).imp_right (passes message flags)

theorem Event.Notes.refl (floor : Floor σ P Req Resp) : event.Notes method floor floor :=
  .of_acts id (List.append_nil _).symm nofun nofun

/-- Attempts to end the call and what passes the gate apart, anybody may record what happens. -/
theorem Floor.Step.notes (step : Floor.Step place floor floor') (apart : place ≠ .concluding)
    (apart' : place ≠ .atGate) : event.Notes method floor floor' := by
  have recorded := step.recorded apart'
  have nothing : floor'.acts = floor.acts → event.Notes method floor floor' := fun same =>
    .of_acts recorded (same.trans (List.append_nil _).symm) nofun nofun
  cases step with
  | advance streams part => exact .of_acts recorded rfl (by simp) (by simp)
  | takeHeaders => exact .of_acts recorded rfl (by simp) (by simp)
  | use how => cases how <;> exact .of_acts recorded rfl (by simp [Use.act?]) (by simp [Use.act?])
  | takeTrailers status => exact absurd rfl apart
  | pass part isOpen => exact absurd rfl apart'
  | _ => exact nothing rfl

/-- Without interceptors a part goes straight to the transport. -/
theorem Steps.send_plain (plain : method.chain = .empty) (part : ResponsePart Resp) :
    send method part = (do
      let _ ← .read fun floor : Floor σ P Req Resp => floor.call.context.path
      toTransport method part) := by
  unfold send
  rw [plain]
  rfl

theorem covers_notes (apart : place ≠ .concluding) (apart' : place ≠ .atGate) :
    Covers (Floor.Step place) fun _ r => ∀ floor : Floor σ P Req Resp,
      r.Heeds Floor.Extends (event.Notes method) floor :=
  covers_heeds fun _ _ step => step.notes apart apart'

variable (event) in
theorem Steps.heeds_toTransport (part : ResponsePart Resp) (floor : Floor σ P Req Resp) :
    (toTransport method part).Heeds Floor.Extends (event.Notes method) floor :=
  covers_toTransport method (covers_notes nofun nofun) (covers_notes nofun nofun) part floor

/-- An emission, as long as it is of a message that the event writes, or of an end whose trailers it
has taken. -/
theorem Steps.heeds_emit (plain : method.chain = .empty) {part : ResponsePart Resp}
    (writes : ∀ message flags, part = .message message flags → event.Writes message)
    {floor : Floor σ P Req Resp}
    (taken : ∀ status staged, part = .finish status staged → .takes status staged ∈ floor.acts) :
    (emit method part).Heeds Floor.Extends (event.Notes method) floor := by
  have anywhere : Covers (Floor.Step .anywhere) fun _ r => ∀ floor : Floor σ P Req Resp,
      r.Heeds Floor.Extends (event.Notes method) floor :=
    covers_notes nofun nofun
  have sends : ∀ part, ∀ floor : Floor σ P Req Resp, (send method part).Heeds
      Floor.Extends (event.Notes method) floor := by
    intro part
    rw [send_plain plain]
    exact anywhere.bind (anywhere.single _ id _ .look) fun _ => heeds_toTransport event part
  have gate : ∀ emitting, ∀ floor : Floor σ P Req Resp,
      event.Notes method floor (floor.setEmitting emitting) := fun emitting floor =>
    .of_acts (fun recorded => recorded.of_eq rfl rfl rfl) (List.append_nil _).symm nofun nofun
  have leaves : ∀ (result : Result (List Receipt)) floor,
      (do .act (Floor.setEmitting false); return result : On σ P Req Resp _).Heeds
        Floor.Extends (event.Notes method) floor :=
    fun result floor floor' _ _ => ⟨gate false floor', trivial⟩
  intro floor₁ grows₁ _
  refine ⟨gate true floor₁, fun floor₂ grows₂ _ => ?_⟩
  cases shut : floor₂.isShut with
  | true =>
    simp only [shut, if_true]
    exact ⟨.refl floor₂, leaves _ floor₂⟩
  | false =>
    simp only [shut, Bool.false_eq_true, if_false]
    refine ⟨.of_acts (fun recorded => recorded.pass fun status staged same => ?_) rfl
      (fun _ _ => by simp) ?_, ?_⟩
    · exact (List.IsPrefix.trans grows₁ grows₂).subset (taken status staged same)
    · intro message flags mem
      cases List.mem_singleton.mp mem
      exact writes message flags rfl
    · exact Heeds.bind
        (covers_emitBehindGate method anywhere (covers_notes nofun nofun) sends part _)
        fun receipts => leaves (.ok receipts)

/-- An attempt to end the call that belongs to the event. -/
theorem Steps.heeds_finish (plain : method.chain = .empty) {status : Status}
    (attempts : event.Attempts method status) (floor : Floor σ P Req Resp) :
    (finish method status).Heeds Floor.Extends (event.Notes method) floor := by
  intro floor' _ _
  have taking := Floor.Step.takeTrailers status floor'
  refine ⟨.of_acts (taking.recorded nofun) rfl (fun other staged mem => ?_) (by simp),
    Heeds.bind (heeds_emit plain (by simp) fun other staged same => ?_) fun _ _ => trivial⟩
  · cases List.mem_singleton.mp mem
    exact attempts
  · cases same
    exact List.mem_append_right _ (List.mem_singleton.mpr rfl)

/-- Whatever an event records is its own. -/
theorem Event.heeds_steps (plain : method.chain = .empty) (event : Event σ P Req Resp)
    (floor : Floor σ P Req Resp) :
    (event.steps method).Heeds Floor.Extends (event.Notes method) floor := by
  refine Event.covers_steps method (covers_notes nofun nofun)
    (Steps.covers_closeInbound (covers_notes nofun nofun)) event (fun message flags writes => ?_)
    (fun status attempts => Steps.heeds_finish plain attempts)
    (Or.inr (Steps.heeds_toTransport event)) floor
  refine fun floor => Steps.heeds_emit plain (fun other flags same => ?_) (by simp)
  cases same
  exact writes

end Notes

/-- The record fits, and every entry of it belongs to one of these operations. -/
structure Floor.Founded (method : Method σ P Req Resp) (ops : List (Event σ P Req Resp))
    (floor : Floor σ P Req Resp) : Prop extends floor.Recorded where
  /-- Trailers were taken by an operation that was to end the call with this status. -/
  takes : ∀ status staged, .takes status staged ∈ floor.acts →
    ∃ op ∈ ops, Event.Attempts method op status
  /-- A message that has passed the gate was written. -/
  passes : ∀ message flags, .passes (.message message flags) ∈ floor.acts →
    ∃ op ∈ ops, Event.Writes op message

theorem Overlap.founded_run {method : Method σ P Req Resp} (plain : method.chain = .empty)
    (path : String) (shared : σ) (turns : List (Crowd.Turn (Event σ P Req Resp))) :
    (run method path shared turns).state.Founded method (run method path shared turns).ops := by
  refine (Crowd.Heeding.after (I := Floor.Founded method)
    (fun _ event floor _ => Event.heeds_steps plain event floor)
    (fun _ => List.prefix_refl _) (fun _ _ _ => List.IsPrefix.trans)
    (fun _ _ _ notes => notes.goesOn) ?_ ?_ (c := fresh path shared) (List.forall_mem_nil _)
    ⟨⟨Act.record_nil, rfl, rfl⟩, by simp [fresh], by simp [fresh]⟩ turns).2
  · intro ops op floor founded
    refine ⟨founded.toRecorded, fun status staged mem => ?_, fun message flags mem => ?_⟩
    · obtain ⟨other, among, attempts⟩ := founded.takes status staged mem
      exact ⟨other, List.mem_append_left _ among, attempts⟩
    · obtain ⟨other, among, writes⟩ := founded.passes message flags mem
      exact ⟨other, List.mem_append_left _ among, writes⟩
  · intro ops op floor floor' among notes founded
    refine ⟨notes.recorded founded.toRecorded, fun status staged mem => ?_,
      fun message flags mem => ?_⟩
    · rcases notes.takes status staged mem with old | attempts
      · exact founded.takes status staged old
      · exact ⟨op, among, attempts⟩
    · rcases notes.passes message flags mem with old | writes
      · exact founded.passes message flags old
      · exact ⟨op, among, writes⟩

end RemoteCall.Server
