import RemoteCall.Proofs.Server.Gate
import RemoteCall.Proofs.Server.Record

/-!
# What a call without interceptors hands over

Whatever overlaps, the parts for the transport can be read off the record of the call (`Act.reply`):
the headers that were taken ahead of the first part, then what has passed the outbound gate, in this
order, as far as it has an encoding. The `Face` of a call is all that this depends on. It is
`Replied` while nobody holds the gate, and whoever holds it takes it from there to the next such
face, part by part; in between the transport has what comes first of the reply (`Face.Fair`).
-/

namespace RemoteCall.Server

open Routine
open ResponseOrder (Passed)

variable {σ P Req Resp : Type}

/-- What the transport gets, when these headers were taken and these parts have passed the gate. -/
def Act.reply (encode : Resp → Result P) (opening : Option Metadata)
    (passed : List (ResponsePart Resp)) : List (ResponsePart P) :=
  opening.elim [] fun staged =>
    .headers staged :: passed.filterMap fun part => (part.tryMap encode).toOption

def Act.AreMessages (parts : List (ResponsePart Resp)) : Prop :=
  ∀ part ∈ parts, ∃ message flags, part = .message message flags

/-- Messages, and at most one end behind them. -/
def Act.IsSpeech (passed : List (ResponsePart Resp)) : Prop :=
  ∃ messages ending, passed = messages ++ ending ∧ AreMessages messages ∧
    (ending = [] ∨ ∃ status trailers, ending = [.finish status trailers])

namespace Act

variable {encode : Resp → Result P} {messages : List (ResponsePart Resp)} {part : ResponsePart Resp}

theorem reply_concat (staged : Metadata) (passed : List (ResponsePart Resp)) :
    reply encode (some staged) (passed ++ [part]) =
      reply encode (some staged) passed ++ (part.tryMap encode).toOption.toList := by
  unfold reply
  rw [Option.elim_some, Option.elim_some, List.filterMap_append, List.cons_append]
  cases encoded : part.tryMap encode <;> simp [encoded, Except.toOption]

theorem AreMessages.concat (all : AreMessages messages) (message : Resp) (flags : MessageFlags) :
    AreMessages (messages ++ [.message message flags]) :=
  List.forall_mem_append.mpr ⟨all, List.forall_mem_singleton.mpr ⟨message, flags, rfl⟩⟩

theorem AreMessages.speech (all : AreMessages messages) (utters : ∀ m, part ≠ .headers m) :
    IsSpeech (messages ++ [part]) := by
  cases part with
  | headers m => exact absurd rfl (utters m)
  | message a flags => exact ⟨_, [], (List.append_nil _).symm, all.concat a flags, Or.inl rfl⟩
  | finish status trailers => exact ⟨_, _, rfl, all, Or.inr ⟨status, trailers, rfl⟩⟩

end Act

/-- What matters of a floor for what is handed over. -/
structure Face (P Resp : Type) where
  opening : Option Metadata := none
  passed : List (ResponsePart Resp) := []
  parts : List (ResponsePart P) := []
  order : ResponseOrder := .fresh
  headersSent : Bool := false
  ended : Bool := false

def Floor.face (floor : Floor σ P Req Resp) : Face P Resp where
  opening := Act.opening? floor.acts
  passed := Act.passed floor.acts
  parts := floor.parts
  order := floor.call.order
  headersSent := floor.call.headersSent
  ended := floor.call.ended

namespace Face

variable (encode : Resp → Result P) {part : ResponsePart Resp}

/-- The headers and these messages were handed over. -/
def speaking (staged : Metadata) (messages : List (ResponsePart Resp)) : Face P Resp where
  opening := some staged
  passed := messages
  parts := Act.reply encode (some staged) messages
  order := .streaming
  headersSent := true

/-- All that has passed the gate was handed over. -/
inductive Replied : Face P Resp → Prop
  | silent : Replied {}
  | speaking (staged : Metadata) (messages : List (ResponsePart Resp))
      (all : Act.AreMessages messages) : Replied (speaking encode staged messages)
  | ended (staged : Metadata) (messages : List (ResponsePart Resp))
      (all : Act.AreMessages messages) (status : Status) (trailers : Metadata) :
      Replied { speaking encode staged (messages ++ [.finish status trailers]) with
        order := .ended, ended := true }

/-- The headers and these messages were handed over, and another part has passed the gate. -/
def uttering (staged : Metadata) (messages : List (ResponsePart Resp)) (part : ResponsePart Resp) :
    Face P Resp :=
  { speaking encode staged messages with passed := messages ++ [part] }

/-- This part has passed the gate, and all before it was handed over. -/
inductive LetIn (part : ResponsePart Resp) : Face P Resp → Prop
  | first : LetIn part { passed := [part] }
  | later (staged : Metadata) (messages : List (ResponsePart Resp))
      (all : Act.AreMessages messages) : LetIn part (uttering encode staged messages part)

/-- What was handed over is the first of what has passed the gate. -/
structure Fair (face : Face P Resp) : Prop where
  parts : face.parts <+: Act.reply encode face.opening face.passed
  speech : Act.IsSpeech face.passed

variable {encode} {face : Face P Resp}

theorem Replied.parts (replied : face.Replied encode) :
    face.parts = Act.reply encode face.opening face.passed := by
  cases replied <;> rfl

theorem Replied.fair (replied : face.Replied encode) : face.Fair encode := by
  cases replied with
  | silent => exact ⟨List.prefix_refl _, [], [], rfl, List.forall_mem_nil _, Or.inl rfl⟩
  | speaking staged messages all =>
    exact ⟨List.prefix_refl _, messages, [], (List.append_nil _).symm, all, Or.inl rfl⟩
  | ended staged messages all status trailers =>
    exact ⟨List.prefix_refl _, messages, _, rfl, all, Or.inr ⟨status, trailers, rfl⟩⟩

theorem fair_uttering {staged : Metadata} {messages : List (ResponsePart Resp)}
    (all : Act.AreMessages messages) (utters : ∀ m, part ≠ .headers m) :
    (uttering encode staged messages part).Fair encode := by
  refine ⟨?_, all.speech utters⟩
  show Act.reply encode (some staged) messages <+:
    Act.reply encode (some staged) (messages ++ [part])
  rw [Act.reply_concat]
  exact List.prefix_append _ _

/-- Before the headers are handed over, nothing is. -/
theorem fair_of_silent (utters : ∀ m, part ≠ .headers m) (opening : Option Metadata)
    (order : ResponseOrder) (headersSent ended : Bool) :
    Face.Fair encode { opening, passed := [part], parts := [], order, headersSent, ended } :=
  ⟨List.nil_prefix, (show Act.AreMessages [] from List.forall_mem_nil _).speech utters⟩

theorem Replied.letIn (replied : face.Replied encode) (part : ResponsePart Resp)
    (isOpen : face.ended = false) :
    LetIn encode part { face with passed := face.passed ++ [part] } := by
  cases replied with
  | silent => exact .first
  | speaking staged messages all => exact .later staged messages all
  | ended staged messages all status trailers => cases isOpen

theorem LetIn.fair (letIn : face.LetIn encode part) (utters : ∀ m, part ≠ .headers m) :
    face.Fair encode := by
  cases letIn with
  | first => exact fair_of_silent utters none .fresh false false
  | later staged messages all => exact fair_uttering all utters

end Face

namespace Floor

variable {floor floor' : Floor σ P Req Resp} {place : Place}

theorem face_log (floor : Floor σ P Req Resp) (act : Act Req Resp) :
    (floor.log act).face =
      { floor.face with
        opening := floor.face.opening.or (Act.opening? [act])
        passed := floor.face.passed ++ Act.passed [act] } := by
  unfold face log Act.opening? Act.passed
  rw [List.findSome?_append, List.filterMap_append]
  rfl

/-- What is recorded beside the headers that were taken and what has passed the gate. -/
theorem face_of_acts {more : List (Act Req Resp)} (acts : floor'.acts = floor.acts ++ more)
    (opening : Act.opening? more = none) (passed : Act.passed more = [])
    (parts : floor'.parts = floor.parts) (order : floor'.call.order = floor.call.order)
    (headersSent : floor'.call.headersSent = floor.call.headersSent)
    (ended : floor'.call.ended = floor.call.ended) : floor'.face = floor.face := by
  have taken : Act.opening? floor'.acts = Act.opening? floor.acts := by
    rw [acts, Act.opening?, List.findSome?_append]
    exact (congrArg _ opening).trans Option.or_none
  have through : Act.passed floor'.acts = Act.passed floor.acts := by
    rw [acts, Act.passed, List.filterMap_append]
    exact (congrArg _ passed).trans (List.append_nil _)
  unfold face
  rw [taken, through, parts, order, headersSent, ended]

theorem face_hand (floor : Floor σ P Req Resp) (encoded : ResponsePart P) :
    ((floor.mapCall fun call => { call with sent := call.sent + 1 }).ask (.send encoded)).face =
      { floor.face with parts := floor.face.parts ++ [encoded] } := by
  unfold face
  rw [parts_hand]
  rfl

/-- What those do who do not hold the gate has nothing to do with what is handed over. -/
theorem Step.face (step : Step place floor floor') (apart : place ≠ .behindGate)
    (apart' : place ≠ .atGate) (apart'' : place ≠ .atTransport) : floor'.face = floor.face := by
  cases step with
  | start request =>
    exact face_of_acts (List.append_nil _).symm rfl rfl (parts_start floor request) rfl rfl rfl
  | advance streams part =>
    obtain ⟨inbound, requests, headers, same⟩ := Pass.call_advance streams floor.call part
    have order := congrArg Call.order same
    have headersSent := congrArg Call.headersSent same
    have ended := congrArg Call.ended same
    exact face_of_acts rfl rfl rfl rfl order headersSent ended
  | takeTrailers status => exact face_of_acts rfl rfl rfl rfl rfl rfl rfl
  | use how => cases how <;> exact face_of_acts rfl rfl rfl rfl rfl rfl rfl
  | openHeaders => exact absurd rfl apart
  | takeHeaders => exact absurd rfl apart
  | close => exact absurd rfl apart
  | pass part isOpen => exact absurd rfl apart'
  | allow part => exact absurd rfl apart''
  | hand encoded => exact absurd rfl apart''
  | _ => rfl

end Floor

/-- The outbound gate guards what is handed over: all of what has passed it, once nobody holds
it. -/
def replying (encode : Resp → Result P) : Discipline (Floor σ P Req Resp) where
  held := Floor.emitting
  outer floor floor' := floor'.face = floor.face
  fair floor := floor.face.Fair encode
  rests floor := floor.face.Replied encode
  calm _ := False
  still _ _ := True
  outer_refl _ := rfl
  outer_trans _ _ _ first second := second.trans first
  fair_rests _ := Face.Replied.fair
  fair_outer _ _ fair outer := by rwa [outer]
  rests_outer _ _ rests outer := by rwa [outer]

theorem fair_of_face {encode : Resp → Result P} {floor : Floor σ P Req Resp} {face : Face P Resp}
    (same : floor.face = face) (fair : face.Fair encode) : (replying encode).fair floor := by
  show floor.face.Fair encode
  rwa [same]

namespace Steps

variable (method : Method σ P Req Resp) {part : ResponsePart Resp}

theorem covers_stands_replying {place : Place} (apart : place ≠ .behindGate)
    (apart' : place ≠ .atGate) (apart'' : place ≠ .atTransport) :
    Covers (Floor.Step place : Floor σ P Req Resp → Floor σ P Req Resp → Prop)
      fun _ r => r.Stands (replying method.responses.encode) none :=
  covers_stands fun _ _ step => ⟨step.face apart apart' apart'', step.emitting apart', nofun⟩

/-- A part is handed over if it has an encoding. -/
theorem during_write {face : Face P Resp}
    (hands : Face.Fair method.responses.encode { face with
      parts := face.parts ++ (part.tryMap method.responses.encode).toOption.toList })
    {floor : Floor σ P Req Resp} (before : floor.face = face) :
    (write method part).During (replying method.responses.encode)
      (fun _ floor => floor.face = { face with
        parts := face.parts ++ (part.tryMap method.responses.encode).toOption.toList }) floor := by
  unfold write
  cases encoded : part.tryMap method.responses.encode with
  | ok payload =>
    rw [encoded] at hands
    intro floor' others held _
    have after : ((floor'.mapCall fun call => { call with sent := call.sent + 1 }).ask
        (.send payload)).face = { face with parts := face.parts ++ [payload] } := by
      rw [Floor.face_hand, others.trans before]
    exact ⟨fair_of_face after hands, held, after⟩
  | error e =>
    show floor.face = { face with parts := face.parts ++ [] }
    rw [before, List.append_nil]

/-- A part that the order filter lets through is handed over, and nothing else. -/
theorem during_toTransport_plain {face : Face P Resp} {order : ResponseOrder}
    (allows : face.order.allow part = ([part], order)) (fair : face.Fair method.responses.encode)
    (hands : Face.Fair method.responses.encode { face with
      order, parts := face.parts ++ (part.tryMap method.responses.encode).toOption.toList })
    {floor : Floor σ P Req Resp} (before : floor.face = face) :
    (toTransport method part).During (replying method.responses.encode)
      (fun _ floor => floor.face = { face with
        order, parts := face.parts ++ (part.tryMap method.responses.encode).toOption.toList })
      floor := by
  intro floor₁ others held _
  have same : floor₁.face = face := others.trans before
  have admits : Call.allow part floor₁.call = ([part], { floor₁.call with order }) := by
    unfold Call.allow
    rw [show floor₁.call.order = face.order from congrArg Face.order same, allows]
  have after : (floor₁.mapCall fun call => { call with order }).face = { face with order } := by
    rw [← same]
    rfl
  simp only [admits]
  refine ⟨fair_of_face after ⟨fair.parts, fair.speech⟩, held,
    During.bind (r := forEach _ [part]) ?_⟩
  refine During.bind ((during_write method hands after).mono fun receipts floor written => ?_)
  show During _ _ (if [part].any ResponsePart.isFinish then _ else _) floor
  split
  · intro floor' others held _
    exact ⟨fair_of_face (others.trans written) hands, held, others.trans written⟩
  · exact written

/-- The same of a part that is sent. -/
theorem during_send_plain (plain : method.chain = .empty) (part : ResponsePart Resp)
    {floor : Floor σ P Req Resp} {face face' : Face P Resp} (before : floor.face = face)
    {order : ResponseOrder} (allows : face.order.allow part = ([part], order))
    (becomes : { face with
      order, parts := face.parts ++ (part.tryMap method.responses.encode).toOption.toList } = face')
    (fair : face.Fair method.responses.encode) (fair' : face'.Fair method.responses.encode) :
    (send method part).During (replying method.responses.encode)
      (fun _ floor => floor.face = face') floor := by
  subst becomes
  rw [send_plain plain]
  intro floor' others held _
  exact ⟨fair_of_face (others.trans before) fair, held,
    during_toTransport_plain method allows fair fair' (others.trans before)⟩

/-- Ahead of the first part the headers are handed over. -/
theorem during_openResponse (plain : method.chain = .empty) (utters : ∀ m, part ≠ .headers m)
    {floor : Floor σ P Req Resp} (letIn : floor.face.LetIn method.responses.encode part) :
    (openResponse method part).During (replying method.responses.encode)
      (fun out floor => out.1 = part ∧ ∃ staged messages, Act.AreMessages messages ∧
        floor.face = .uttering method.responses.encode staged messages part) floor := by
  generalize entered : floor.face = face at letIn
  intro floor₁ others held _
  have same : floor₁.face = face := others.trans entered
  have opens : (floor₁.mapCall fun call => call.openHeaders.2).face =
      { face with headersSent := true } := by
    rw [← same]
    rfl
  have sent : floor₁.call.headersSent = face.headersSent := congrArg Face.headersSent same
  cases letIn with
  | later staged messages all =>
    refine ⟨fair_of_face opens (Face.fair_uttering all utters), held, ?_⟩
    show During _ _ (if floor₁.call.headersSent then _ else _) _
    rw [sent]
    exact ⟨rfl, staged, messages, all, opens⟩
  | first =>
    refine ⟨fair_of_face opens (Face.fair_of_silent utters _ _ _ _), held, ?_⟩
    show During _ _ (if floor₁.call.headersSent then _ else _) _
    rw [sent]
    intro floor₂ others held _
    let staged := floor₂.call.takeHeaders.1
    have before : floor₂.face = { passed := [part], headersSent := true } := others.trans opens
    have takes : ((floor₂.mapCall fun call => call.takeHeaders.2).log (.opens staged)).face =
        { opening := some staged, passed := [part], headersSent := true } := by
      rw [Floor.face_log, show (floor₂.mapCall fun call => call.takeHeaders.2).face = floor₂.face
        from rfl, before]
      rfl
    have none : Act.AreMessages ([] : List (ResponsePart Resp)) := List.forall_mem_nil _
    have sends : (send method (.headers staged)).During (replying method.responses.encode)
        (fun _ floor => floor.face = .uttering method.responses.encode staged [] part) _ :=
      during_send_plain method plain (.headers staged) takes rfl rfl
        (Face.fair_of_silent utters _ _ _ _) (Face.fair_uttering none utters)
    have further : (send method (.headers staged) >>= fun receipts =>
        return (part, receipts)).During (replying method.responses.encode)
        (fun out floor => out.1 = part ∧ ∃ staged messages, Act.AreMessages messages ∧
            floor.face = .uttering method.responses.encode staged messages part) _ :=
      During.bind (sends.mono fun _ floor after => ⟨rfl, staged, [], none, after⟩)
    refine ⟨fair_of_face takes (Face.fair_of_silent utters _ _ _ _), held, ?_⟩
    cases part with
    | headers m => exact absurd rfl (utters m)
    | message a flags => exact further
    | finish status trailers => exact further

theorem during_closeGate {face : Face P Resp} (fair : face.Fair method.responses.encode)
    (isOpen : face.ended = false) {floor : Floor σ P Req Resp} (before : floor.face = face) :
    (closeGate part).During (replying method.responses.encode)
      (fun _ floor => floor.face = { face with ended := part.isFinish }) floor := by
  unfold closeGate
  cases part.isFinish with
  | true =>
    intro floor' others held _
    have closes : (floor'.mapCall Call.close).face = { face with ended := true } := by
      rw [← others.trans before]
      rfl
    exact ⟨fair_of_face closes ⟨fair.parts, fair.speech⟩, held, closes⟩
  | false =>
    show floor.face = { face with ended := false }
    rw [before, ← isOpen]

/-- An emission that is let in hands over all that it has to. -/
theorem during_emission (plain : method.chain = .empty) (utters : ∀ m, part ≠ .headers m)
    {floor : Floor σ P Req Resp} (letIn : floor.face.LetIn method.responses.encode part) :
    (emitBehindGate method part).During (replying method.responses.encode)
      (fun _ => (replying method.responses.encode).rests) floor := by
  refine During.bind ((during_openResponse method plain utters letIn).mono ?_)
  rintro ⟨out, receipts⟩ floor ⟨is, staged, messages, all, before⟩
  change out = part at is
  subst out
  have fair : (Face.uttering method.responses.encode staged messages part).Fair
      method.responses.encode := Face.fair_uttering all utters
  refine During.bind ((during_closeGate method fair rfl before).mono fun _ floor closed => ?_)
  have sends : ∀ {face : Face P Resp}, face.Replied method.responses.encode →
      ∀ {order : ResponseOrder}, ResponseOrder.streaming.allow part = ([part], order) →
      { Face.uttering method.responses.encode staged messages part with
        order
        parts := Act.reply method.responses.encode (some staged) (messages ++ [part])
        ended := part.isFinish } = face →
      (send method part).During (replying method.responses.encode)
        (fun _ => (replying method.responses.encode).rests) floor := by
    intro face replied order allows becomes
    rw [Act.reply_concat] at becomes
    refine (during_send_plain method plain part closed allows becomes ⟨fair.parts, fair.speech⟩
      replied.fair).mono fun _ floor same => ?_
    show floor.face.Replied _
    rwa [same]
  refine During.bind (During.mono (Q := fun _ => (replying method.responses.encode).rests) ?_
    fun _ _ rests => rests)
  cases part with
  | headers m => exact absurd rfl (utters m)
  | message a flags => exact sends (.speaking staged _ (all.concat a flags)) rfl rfl
  | finish status trailers => exact sends (.ended staged messages all status trailers) rfl rfl

/-- Through the gate, all is handed over that is let in. -/
theorem stands_emit_plain (plain : method.chain = .empty) (utters : ∀ m, part ≠ .headers m) :
    (emit method part).Stands (replying method.responses.encode) none := by
  refine stands_emit_of method rfl (fun _ _ => rfl) (fun _ never _ => never.elim) ?_
  intro floor replied shut
  have isOpen : floor.face.ended = false := (Bool.or_eq_false_iff.mp shut).1
  have letIn : (floor.log (.passes part)).face.LetIn method.responses.encode part := by
    rw [Floor.face_log, show Act.opening? [.passes part] = none from rfl, Option.or_none]
    exact Face.Replied.letIn replied part isOpen
  exact ⟨letIn.fair utters, during_emission method plain utters letIn⟩

end Steps

theorem Event.stands_replying {method : Method σ P Req Resp} (plain : method.chain = .empty)
    (event : Event σ P Req Resp) :
    (event.steps method).Stands (replying method.responses.encode) none := by
  have quiet : method.chain.SendsNothingBack := by
    rw [plain]
    exact List.forall_mem_nil _
  have anywhere : Covers
      (Floor.Step .anywhere : Floor σ P Req Resp → Floor σ P Req Resp → Prop) _ :=
    Steps.covers_stands_replying method nofun nofun nofun
  have concluding : Covers
      (Floor.Step .concluding : Floor σ P Req Resp → Floor σ P Req Resp → Prop) _ :=
    Steps.covers_stands_replying method nofun nofun nofun
  exact Event.covers_steps method anywhere
    (Steps.covers_closeInbound (Steps.covers_stands_replying method nofun nofun nofun)) event
    (fun _ _ _ => Steps.stands_emit_plain method plain nofun)
    (fun status _ => Steps.covers_finish method anywhere concluding status fun _ =>
      Steps.stands_emit_plain method plain nofun)
    (Or.inl quiet)

namespace Overlap

variable {method : Method σ P Req Resp}

theorem guarded_replying (plain : method.chain = .empty) (path : String) (shared : σ)
    (turns : List (Crowd.Turn (Event σ P Req Resp))) :
    (run method path shared turns).Guarded (replying method.responses.encode) := by
  have begins : (fresh path shared : Overlap σ P Req Resp).state.face.Replied
      method.responses.encode := .silent
  exact Crowd.Guarded.after (Event.stands_replying plain)
    ⟨none, begins.fair, rfl, fun _ => begins, nofun, fun _ _ _ found => by cases found⟩ turns

end Overlap

end RemoteCall.Server
