import RemoteCall.Proofs.Server.Floor
import RemoteCall.Proofs.Server.LateWrite

/-!
# The outbound gate

The order filter decides about a part under its lock, and lets go of it before the part is handed
over. So it alone does not keep the output in order when operations overlap: that is what the
outbound gate is for, which an emission holds until its parts are handed over (`gate`). Whoever
holds it can rely on that nobody else hands anything over, as long as no hook sends past it. Then
the output is well-formed however the operations overlap (`wellFormed_unless_overtaken`).

A hook that answers what arrives sends past the gate, and its end may overtake a message that the
filter has let through already (`Overtaking.end_overtakes_message`).
-/

namespace RemoteCall.Server

open ResponseOrder (Passed)

variable {σ P Req Resp S : Type}

/-- The parts that were handed to the transport. -/
def Floor.parts (floor : Floor σ P Req Resp) : List (ResponsePart P) :=
  floor.ops.filterMap ServerOp.part?

namespace Floor

variable {floor floor' : Floor σ P Req Resp}

@[simp] theorem parts_start (floor : Floor σ P Req Resp) (request : Option Req) :
    (floor.ask (.start request)).parts = floor.parts := by
  unfold parts ask
  rw [List.filterMap_append]
  exact List.append_nil _

@[simp] theorem parts_hand (floor : Floor σ P Req Resp) (encoded : ResponsePart P) :
    (floor.ask (.send encoded)).parts = floor.parts ++ [encoded] := by
  unfold parts ask
  rw [List.filterMap_append]
  rfl

/-- What those may do to the output who do not hold the gate: nothing but suppress it. -/
structure Spares (floor floor' : Floor σ P Req Resp) : Prop where
  parts : floor'.parts = floor.parts
  order : floor'.call.order = floor.call.order
  suppressed : floor.call.suppressed = true → floor'.call.suppressed = true

theorem Spares.refl (floor : Floor σ P Req Resp) : Spares floor floor := ⟨rfl, rfl, id⟩

theorem suppressed_advance (streams : Bool) (call : Call σ Req) (part : RequestPart Req) :
    (Pass.advance streams call part).1.suppressed = call.suppressed := by
  obtain ⟨inbound, requests, headers, same⟩ := Pass.call_advance streams call part
  rw [same]

/-- Whatever is done anywhere, behind the gate or at it spares the output. -/
theorem Step.spares {place : Place} (step : Step place floor floor')
    (apart : place ≠ .atTransport) : Spares floor floor' := by
  cases step with
  | start request => exact ⟨parts_start floor request, rfl, id⟩
  | advance streams part =>
    exact ⟨rfl, Pass.order_advance streams floor.call part,
      (suppressed_advance streams floor.call part).trans⟩
  | suppress => exact ⟨rfl, rfl, fun _ => rfl⟩
  | allow part => exact absurd rfl apart
  | hand encoded => exact absurd rfl apart
  | _ => exact ⟨rfl, rfl, id⟩

theorem Step.emitting {place : Place} (step : Step place floor floor') (apart : place ≠ .atGate) :
    floor'.emitting = floor.emitting := by
  cases step with
  | gate emitting => exact absurd rfl apart
  | _ => rfl

end Floor

/-- The outbound gate guards the order of what is handed over. Once the client is lost, nothing is
let in. -/
def gate : Discipline (Floor σ P Req Resp) where
  held := Floor.emitting
  outer := Floor.Spares
  fair floor := ResponsePart.WellFormed floor.parts
  rests floor := Passed floor.parts floor.call.order
  calm floor := floor.call.suppressed = true
  still floor floor' := floor'.parts = floor.parts ∧ floor'.call.suppressed = true
  outer_refl := Floor.Spares.refl
  outer_trans _ _ _ first second := ⟨second.parts.trans first.parts,
    second.order.trans first.order, fun lost => second.suppressed (first.suppressed lost)⟩
  fair_rests _ := Passed.wellFormed
  fair_outer _ _ fair outer := by rwa [outer.parts]
  rests_outer _ _ rests outer := by rwa [outer.parts, outer.order]

namespace Steps

open Routine

variable (method : Method σ P Req Resp)

theorem covers_stands_gate {place : Place} (apart : place ≠ .atTransport)
    (apart' : place ≠ .atGate) :
    Covers (Floor.Step place : Floor σ P Req Resp → Floor σ P Req Resp → Prop)
      fun _ r => r.Stands gate none :=
  covers_stands fun _ _ step => ⟨step.spares apart, step.emitting apart',
    fun lost => ⟨(step.spares apart).parts, (step.spares apart).suppressed lost⟩⟩

theorem covers_during_gate {place : Place} (apart : place ≠ .atTransport)
    (apart' : place ≠ .atGate) :
    Covers (Floor.Step place : Floor σ P Req Resp → Floor σ P Req Resp → Prop)
      fun _ r => ∀ w, gate.rests w → r.During gate (fun _ => gate.rests) w :=
  covers_during fun _ _ step => ⟨step.spares apart, step.emitting apart'⟩

/-- Parts that have been let through are handed over, and nobody else hands over anything. -/
theorem during_writes (admitted : List (ResponsePart Resp)) {floor : Floor σ P Req Resp}
    (passes : Passed (floor.parts ++ admitted.filterMap fun part =>
      (part.tryMap method.responses.encode).toOption) floor.call.order) :
    (forEach (write method) admitted).During gate (fun _ => gate.rests) floor := by
  induction admitted generalizing floor with
  | nil =>
    rw [List.filterMap_nil, List.append_nil] at passes
    exact passes
  | cons part rest ih =>
    refine During.bind (During.mono (Q := fun _ floor => Passed (floor.parts ++
      rest.filterMap fun part => (part.tryMap method.responses.encode).toOption)
        floor.call.order) ?_ fun receipts floor passes => ?_)
    · unfold write
      cases encoded : part.tryMap method.responses.encode with
      | ok payload =>
        rw [List.filterMap_cons_some (b := payload) (by rw [encoded]; rfl), List.append_cons]
          at passes
        intro floor' others held _
        rw [← others.parts, ← others.order, ← Floor.parts_hand] at passes
        exact ⟨passes.wellFormed_of_prefix (List.prefix_append _ _), held, passes⟩
      | error e =>
        rwa [List.filterMap_cons_none (by rw [encoded]; rfl)] at passes
    · exact During.bind ((ih passes).mono fun _ _ rests => rests)

/-- What leaves the chain is handed over in order. -/
theorem during_toTransport (part : ResponsePart Resp) (floor : Floor σ P Req Resp)
    (rests : gate.rests floor) :
    (toTransport method part).During gate (fun _ => gate.rests) floor := by
  refine During.bind fun floor' others held _ => ?_
  have passed : Passed floor'.parts floor'.call.order := gate.rests_outer _ _ rests others
  refine ⟨passed.wellFormed, held, During.bind (r := forEach _ (Call.allow part floor'.call).1) ?_⟩
  refine (during_writes method _ (passed.allow method.responses.encode part)).mono ?_
  intro receipts floor rests
  have covers : Covers
      (Floor.Step .anywhere : Floor σ P Req Resp → Floor σ P Req Resp → Prop) _ :=
    covers_during_gate nofun nofun
  split
  · exact covers.bind (covers.act .cancel) (fun _ => covers.value receipts) floor rests
  · exact rests

theorem during_emitBehindGate (part : ResponsePart Resp) (floor : Floor σ P Req Resp)
    (rests : gate.rests floor) :
    (emitBehindGate method part).During gate (fun _ => gate.rests) floor :=
  covers_emitBehindGate method (covers_during_gate nofun nofun)
    (covers_during_gate nofun nofun)
    (covers_send method (covers_during_gate nofun nofun)
      (covers_closeInbound (covers_during_gate nofun nofun)) (covers_during_gate nofun nofun)
      (during_toTransport method)) part floor rests

/-- Once the client is lost, an emission that comes to the gate is refused. -/
theorem refused_emit (part : ResponsePart Resp) :
    (emit method part).Keeps gate.calm gate.still (· = .error .streamAlreadyClosed) := by
  intro floor lost free
  refine ⟨⟨rfl, lost⟩, fun floor lost _ => ?_⟩
  have shut : floor.isShut = true := by
    unfold Floor.isShut
    rw [show floor.call.suppressed = true from lost, Bool.or_true]
  simp only [shut, if_true]
  exact ⟨⟨rfl, lost⟩, fun floor lost _ => ⟨⟨rfl, lost⟩, rfl⟩⟩

/-- An emission takes the gate and lets go of it at its end. In between it hands its part over, if
it lets it in. -/
theorem stands_emit_of {D : Discipline (Floor σ P Req Resp)} (held : D.held = Floor.emitting)
    (turns : ∀ emitting floor, D.outer floor (floor.setEmitting emitting))
    {part : ResponsePart Resp} (calm : (emit method part).Keeps D.calm D.still fun _ => True)
    (letIn : ∀ floor, D.rests floor → floor.isShut = false →
      D.fair (floor.log (.passes part)) ∧
        (emitBehindGate method part).During D (fun _ => D.rests) (floor.log (.passes part))) :
    (emit method part).Stands D none := by
  have leaves : ∀ result : Result (List Receipt), ∀ floor : Floor σ P Req Resp, D.rests floor →
      (do .act (Floor.setEmitting false); return result : On σ P Req Resp _).Stands D
        (some floor) := by
    intro result floor rests floor' others _ _
    have left := D.rests_outer _ _ (D.rests_outer _ _ rests others) (turns false floor')
    exact ⟨D.fair_rests _ left, Or.inr ⟨by rw [held]; rfl, left, trivial⟩⟩
  refine ⟨calm, fun floor free => ⟨turns true floor, Or.inr ⟨?_, ?_, ?_⟩⟩⟩
  · rw [held]
    exact (Bool.not_eq_true' _).mp free
  · rw [held]
    rfl
  intro rests floor' others inside _
  have taken : D.rests floor' :=
    D.rests_outer _ _ (D.rests_outer _ _ rests (turns true floor)) others
  have still : ∀ act, D.held (floor'.log act) = true := by
    intro act
    rw [held] at inside ⊢
    exact inside
  cases shut : floor'.isShut with
  | true =>
    simp only [shut, if_true]
    exact ⟨D.fair_rests _ taken, Or.inl ⟨inside, leaves _ floor' taken⟩⟩
  | false =>
    simp only [shut, Bool.false_eq_true, if_false]
    obtain ⟨fair, hands⟩ := letIn floor' taken shut
    exact ⟨fair, Or.inl ⟨still _, hands.stands fun receipts floor rests =>
      leaves (.ok receipts) floor rests⟩⟩

/-- Through the gate, parts are handed over in order. -/
theorem stands_emit (part : ResponsePart Resp) : (emit method part).Stands gate none := by
  refine stands_emit_of (D := gate) method rfl (fun _ _ => ⟨rfl, rfl, id⟩)
    ((refused_emit method part).mono (fun _ => id) (fun _ _ _ => id) fun _ _ => trivial) ?_
  intro floor passed _
  exact ⟨Passed.wellFormed passed,
    during_emitBehindGate method part (floor.log (.passes part)) passed⟩

end Steps

/-- If no hook sends past the gate, every operation keeps its discipline. -/
theorem Event.stands_steps {method : Method σ P Req Resp} (quiet : method.chain.SendsNothingBack)
    (event : Event σ P Req Resp) : (event.steps method).Stands gate none := by
  have anywhere : Routine.Covers
      (Floor.Step .anywhere : Floor σ P Req Resp → Floor σ P Req Resp → Prop) _ :=
    Steps.covers_stands_gate nofun nofun
  exact Event.covers_steps method anywhere
    (Steps.covers_closeInbound (Steps.covers_stands_gate nofun nofun)) event
    (fun _ _ _ => Steps.stands_emit method _)
    (fun status _ => Steps.covers_finish method anywhere (Steps.covers_stands_gate nofun nofun)
      status fun _ => Steps.stands_emit method _)
    (Or.inl quiet)

theorem Overlap.guarded {method : Method σ P Req Resp} (quiet : method.chain.SendsNothingBack)
    (path : String) (shared : σ) (turns : List (Crowd.Turn (Event σ P Req Resp))) :
    (Overlap.run method path shared turns).Guarded gate := by
  refine Crowd.Guarded.after (Event.stands_steps quiet) ⟨none, ?_⟩ turns
  have empty : Passed (Overlap.fresh path shared : Overlap σ P Req Resp).state.parts .fresh :=
    .nothing
  exact ⟨empty.wellFormed, rfl, fun _ => empty, nofun, fun _ _ _ found => by cases found⟩

/-- What a served call hands to its transport is well-formed at every moment: for every shape, chain
and handler, whatever the transport delivers and reports, and whoever writes, if the operations
come one after the other. If the hooks for what arrives send nothing back, it is well-formed
however the operations overlap. -/
theorem wellFormed_unless_overtaken (method : Method σ P Req Resp) :
    (∀ (handler : Handler σ Req Resp S) (compression : Bool) (path : String) (shared : σ)
      (moves : List (Move σ P Req Resp)),
      ResponsePart.WellFormed
        ((Serving.fresh method handler compression path shared).outputs moves)) ∧
    (method.chain.SendsNothingBack → ∀ (path : String) (shared : σ)
      (turns : List (Crowd.Turn (Event σ P Req Resp))),
      ResponsePart.WellFormed (Overlap.run method path shared turns).state.parts) :=
  ⟨Serving.wellFormed_outputs method,
    fun quiet path shared turns => (Overlap.guarded quiet path shared turns).fair⟩

namespace Overtaking

open Limiter

def write : Event Unit String String String := .write false "one" .deferred

/-- While the message of the client is received, somebody has written one, which has been let
through and is not handed over yet. -/
def turns : List (Crowd.Turn (Event Unit String String String)) :=
  .begin (.receive (.headers .empty)) :: List.replicate 6 (.go 0) ++
    .begin write :: List.replicate 10 (.go 1) ++
    .begin (.receive (.message "hi" {})) :: List.replicate 6 (.go 2) ++
    List.replicate 6 (.go 1)

def after (i : Interceptor Unit (ResponsePart String) (RequestPart String)) :
    Overlap Unit String String String :=
  .run (behind i) "/s.S/Do" () turns

/-- Behind an interceptor that passes everything on, the same turns give a response that is as it
should be. -/
theorem message_passes :
    (behind .forward).chain.SendsNothingBack ∧
      ResponsePart.WellFormed (after .forward).state.parts ∧
      (after .forward).state.parts = [.headers .empty, .message "one" (.compressed false)] := by
  have quiet : (behind .forward).chain.SendsNothingBack := by
    intro i mem site arrival _
    rw [List.mem_singleton.mp mem]
    cases arrival <;> exact ⟨trivial, trivial⟩
  exact ⟨quiet, (wellFormed_unless_overtaken (S := Unit) (behind .forward)).2 quiet "/s.S/Do" ()
    turns, rfl⟩

/-- The end that the hook sends overtakes the message. -/
theorem end_overtakes_message :
    (after limiting).state.parts =
        [.headers .empty, .finish ⟨.resourceExhausted, some "limit"⟩ .empty,
          .message "one" (.compressed false)] ∧
      ¬ResponsePart.WellFormed (after limiting).state.parts := by
  have parts : (after limiting).state.parts =
      [.headers .empty, .finish ⟨.resourceExhausted, some "limit"⟩ .empty,
        .message "one" (.compressed false)] := rfl
  refine ⟨parts, ?_⟩
  rw [parts]
  rintro ⟨body, ending, split, ordered, last⟩
  rcases last with rfl | ⟨status, trailers, rfl⟩
  · rw [List.append_nil] at split
    subst split
    rcases ordered with none | ⟨m, messages, same, all⟩
    · cases none
    · cases same
      cases all _ List.mem_cons_self
  · have final := congrArg List.getLast? split
    rw [List.getLast?_concat] at final
    cases final

end Overtaking

end RemoteCall.Server
