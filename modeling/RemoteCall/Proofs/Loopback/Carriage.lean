import Mathlib.Data.List.Basic
import RemoteCall.Proofs.Line.Lossless
import RemoteCall.Proofs.Loopback.Invocation

/-!
# The line of a loopback

The link of a loopback is used as a `Line` is: every step of a loopback is made of acts on its
line, which ask the same of the link and hand the same to the server (`Loopback.carried_step`).
So what a line carries, a loopback carries, whatever its client and its server are.
-/

namespace RemoteCall

open Client (Active TransportOp)
open Line (Act Sight)

variable {τ σ P Req Resp S : Type}

/-- What the client asks for, as an act on the line. -/
def Client.TransportOp.act : TransportOp P → Act P
  | send part => .send part
  | cancel => .cancel

/-- What the server has taken is accepted. -/
def ToServer.accept : ToServer P → Link P → Link P
  | .part _ ticket, link => link.acceptRequest ticket
  | .cancel ticket, link => link.acceptCancel ticket

/-- Whether a move hands something to the server. -/
def Server.Move.isTold : Server.Move σ P Req Resp → Bool
  | .receive _ => true
  | .error _ => true
  | _ => false

namespace Line

def Sight.asked? : Sight P → Option (TransportOp P)
  | sent part _ => some (.send part)
  | cancelled _ => some .cancel
  | _ => none

/-- What the client asks for. -/
def asked (trace : List (Sight P)) : List (TransportOp P) := trace.filterMap Sight.asked?

@[simp] theorem asked_append (first second : List (Sight P)) :
    asked (first ++ second) = asked first ++ asked second :=
  List.filterMap_append

theorem asked_of_cancelled {trace : List (Sight P)} {ticket : Nat}
    (cancelled : .cancelled ticket ∈ trace) : .cancel ∈ asked trace :=
  List.mem_filterMap.mpr ⟨_, cancelled, rfl⟩

theorem cancelled_of_asked {trace : List (Sight P)} (cancel : .cancel ∈ asked trace) :
    ∃ ticket, .cancelled ticket ∈ trace := by
  obtain ⟨sight, member, same⟩ := List.mem_filterMap.mp cancel
  cases sight with
  | cancelled ticket => exact ⟨ticket, member⟩
  | _ => cases same

/-- Acts lead from one line to the other, ask this of the link and hand this to the server. -/
structure Carried (l l' : Line P) (acts : List (Act P)) (ops : List (TransportOp P))
    (moves : List (Server.Move σ P Req Resp)) : Prop where
  run : l.run acts = l'
  asked : Line.asked (l.trace acts) = ops
  told : moves.filter Server.Move.isTold = (taken (l.trace acts)).map fun item => item.op.move

namespace Carried

variable {l mid l' : Line P} {acts first second : List (Act P)} {ops asked : List (TransportOp P)}
  {moves later : List (Server.Move σ P Req Resp)}

theorem refl (l : Line P) : l.Carried l [] [] ([] : List (Server.Move σ P Req Resp)) :=
  ⟨rfl, rfl, rfl⟩

theorem trans (begun : l.Carried mid first ops moves)
    (ended : mid.Carried l' second asked later) :
    l.Carried l' (first ++ second) (ops ++ asked) (moves ++ later) where
  run := by rw [run_append, begun.run, ended.run]
  asked := by rw [trace_append, asked_append, begun.asked, begun.run, ended.asked]
  told := by
    rw [trace_append, taken_append, List.map_append, List.filter_append, begun.told, begun.run,
      ended.told]

/-- What the client asks for. -/
theorem requests (l : Line P) (held : l.held = true) (ops : List (TransportOp P)) :
    l.Carried { l with link := ops.foldl Loopback.apply l.link } (ops.map TransportOp.act) ops
      ([] : List (Server.Move σ P Req Resp)) := by
  induction ops generalizing l with
  | nil => exact .refl l
  | cons op rest ih =>
    have once : l.Carried { l with link := Loopback.apply l.link op } [op.act] [op]
        ([] : List (Server.Move σ P Req Resp)) := by
      cases op <;> constructor <;>
        simp [Line.run, Line.trace, perform, held, TransportOp.act, Loopback.apply, Line.asked,
          Sight.asked?, taken, Sight.taken?]
    exact once.trans (ih { l with link := Loopback.apply l.link op } held)

/-- What the server's side says. -/
theorem replies (l : Line P) (parts : List (ResponsePart P)) :
    l.Carried { l with link := parts.foldl Link.respond l.link } (parts.map .respond) []
      ([] : List (Server.Move σ P Req Resp)) := by
  induction parts generalizing l with
  | nil => exact .refl l
  | cons part rest ih =>
    have once : l.Carried { l with link := l.link.respond part } [.respond part] []
        ([] : List (Server.Move σ P Req Resp)) := ⟨rfl, rfl, rfl⟩
    exact once.trans (ih { l with link := l.link.respond part })

/-- The pump shows the client a part. -/
theorem deliver {part : ResponsePart P} {ticket : Nat} {link : Link P} (hand : l.delivering = none)
    (next : l.link.deliver? = some (.part part ticket, link)) :
    l.Carried { l with link, delivering := some (part, ticket) } [.deliver] []
      ([] : List (Server.Move σ P Req Resp)) := by
  have here : l.perform .deliver =
      ({ l with link, delivering := some (part, ticket) }, [.shown part]) := by
    simp only [perform, Line.deliver, hand, next]
  constructor <;> simp [Line.run, Line.trace, here, Line.asked, Sight.asked?, taken, Sight.taken?]

theorem delivered {part : ResponsePart P} {ticket : Nat}
    (hand : l.delivering = some (part, ticket)) :
    l.Carried { l with link := l.link.acceptResponse part ticket, delivering := none }
      [.delivered] [] ([] : List (Server.Move σ P Req Resp)) := by
  have here : l.perform .delivered =
      ({ l with link := l.link.acceptResponse part ticket, delivering := none },
        if part.isFinish then [.ended] else []) := by
    simp only [perform, Line.delivered, hand]
  cases finish : part.isFinish <;> constructor <;>
    simp [Line.run, Line.trace, here, finish, Line.asked, Sight.asked?, taken, Sight.taken?]

/-- The client hears that there will be no end. -/
theorem fail {link : Link P} (hand : l.delivering = none) (held : l.held = true)
    (next : l.link.deliver? = some (.error, link)) :
    l.Carried { l with link } [.deliver] [] ([] : List (Server.Move σ P Req Resp)) := by
  have here : l.perform .deliver = ({ l with link }, [.failed]) := by
    simp only [perform, Line.deliver, hand, next, letGo, held, Bool.true_or, if_true]
  constructor <;> simp [Line.run, Line.trace, here, Line.asked, Sight.asked?, taken, Sight.taken?]

/-- The serving pump takes what is next. -/
theorem take {item : ToServer P} {link : Link P} (here : l.serve = l.take item link) :
    l.Carried { l with link, serving := some item } [.serve] []
      ([item.op.move] : List (Server.Move σ P Req Resp)) := by
  have sights : (l.perform .serve) = ({ l with link, serving := some item },
      [if l.routed then .handed item else .discarded item]) := here
  cases routed : l.routed <;> cases item <;> constructor <;>
    simp [Line.run, Line.trace, sights, routed, Line.asked, Sight.asked?, taken, Sight.taken?,
      ToServer.op, TransportOp.move, Server.Move.isTold]

/-- The serving pump starts or stops. -/
theorem turn {link : Link P} (here : l.serve = ({ l with link }, [])) :
    l.Carried { l with link } [.serve] [] ([] : List (Server.Move σ P Req Resp)) := by
  have sights : l.perform .serve = ({ l with link }, []) := here
  constructor <;> simp [Line.run, Line.trace, sights, Line.asked, taken]

/-- The path leads nowhere, and the client is told so. -/
theorem unknown {link : Link P} (hand : l.serving = none) (unrouted : l.routed = false)
    (next : l.link.serve? = some (.dispatch, link)) :
    l.Carried { l with link := (link.respond (Server.notFound P)).dropServer } [.serve] []
      ([] : List (Server.Move σ P Req Resp)) := by
  have here : l.perform .serve =
      ({ l with link := (link.respond (Server.notFound P)).dropServer },
        [.said (Server.notFound P)]) := by
    simp only [perform, Line.serve, hand, next, unrouted, Bool.false_eq_true, if_false]
  constructor <;> simp [Line.run, Line.trace, here, Line.asked, Sight.asked?, taken, Sight.taken?]

/-- What the serving pump has taken is accepted. -/
theorem served {item : ToServer P} (hand : l.serving = some item) :
    l.Carried { l with link := item.accept l.link, serving := none } [.served] []
      ([] : List (Server.Move σ P Req Resp)) := by
  have here : l.perform .served = ({ l with link := item.accept l.link, serving := none }, []) := by
    cases item <;> simp only [perform, Line.served, hand, ToServer.accept]
  constructor <;> simp [Line.run, Line.trace, here, Line.asked, taken]

/-- The server takes what is next, replies to it, and then it is accepted. -/
theorem serve {item : ToServer P} {link : Link P} (hand : l.serving = none)
    (here : l.serve = l.take item link) (parts : List (ResponsePart P)) :
    l.Carried { l with link := item.accept (parts.foldl Link.respond link) }
      ([.serve] ++ (parts.map .respond ++ [.served])) []
      ([item.op.move] : List (Server.Move σ P Req Resp)) := by
  have taken := (take here : l.Carried _ _ _ ([item.op.move] : List (Server.Move σ P Req Resp)))
  have replied := taken.trans (.replies _ parts)
  have accepted := replied.trans (.served rfl)
  rw [List.append_assoc, ← hand] at accepted
  exact accepted

theorem carries {routed : Bool} (carried : (fresh routed).Carried l acts ops moves) :
    l.Carries ((fresh routed).trace acts) := by
  have carries := (Holds.of_fresh routed acts).carries
  rwa [carried.run] at carries

/-- Moves that hand nothing to the server make no difference. -/
theorem of_untold (carried : l.Carried l' acts ops moves)
    (quiet : moves.filter Server.Move.isTold = [])
    (silent : later.filter Server.Move.isTold = []) : l.Carried l' acts ops later :=
  ⟨carried.run, carried.asked, by rw [silent, ← quiet, carried.told]⟩

/-- A failure that the server is told is a cancellation that was taken. -/
theorem cancel_of_error (carried : l.Carried l' acts ops moves) {e : CallError}
    (told : .error e ∈ moves) :
    e = .cancelled ∧ ∃ ticket, .cancel ticket ∈ taken (l.trace acts) := by
  have member : (.error e : Server.Move σ P Req Resp) ∈ moves.filter Server.Move.isTold :=
    List.mem_filter.mpr ⟨told, rfl⟩
  rw [carried.told] at member
  obtain ⟨item, taken, same⟩ := List.mem_map.mp member
  cases item with
  | part part ticket => cases same
  | cancel ticket =>
    cases same
    exact ⟨rfl, ticket, taken⟩

theorem error_of_cancel {ticket : Nat} (carried : l.Carried l' acts ops moves)
    (cancel : .cancel ticket ∈ taken (l.trace acts)) : .error .cancelled ∈ moves := by
  have member : (.error .cancelled : Server.Move σ P Req Resp) ∈
      moves.filter Server.Move.isTold := by
    rw [carried.told]
    exact List.mem_map.mpr ⟨_, cancel, rfl⟩
  exact List.mem_of_mem_filter member

/-- Behind a failure the server is told nothing more. -/
theorem nothing_behind {earlier rest : List (Server.Move σ P Req Resp)}
    (carried : l.Carried l' acts ops moves)
    (carries : l'.Carries (l.trace acts)) {e : CallError}
    (split : moves = earlier ++ .error e :: rest) : rest.filter Server.Move.isTold = [] := by
  obtain ⟨parts, cancel?, form⟩ := carries.entered
  obtain ⟨more, whole⟩ := carries.fifo
  let move : ToServer P → Server.Move σ P Req Resp := fun item => item.op.move
  have told : earlier.filter Server.Move.isTold ++
        .error e :: (rest.filter Server.Move.isTold ++ more.map move) =
      (parts.map fun entry => .receive entry.1) ++
        cancel?.toList.map fun _ => .error .cancelled := by
    have all := congrArg (List.map move) (whole.trans form)
    rw [List.map_append, List.map_append, ← carried.told, split, List.filter_append,
      List.filter_cons_of_pos rfl, List.append_assoc, List.map_map, List.map_map] at all
    exact all
  have unsaid :
      (.error e : Server.Move σ P Req Resp) ∉ parts.map fun entry => .receive entry.1 := by
    simp
  cases cancel? with
  | none =>
    rw [Option.toList_none, List.map_nil, List.append_nil] at told
    exact absurd (told ▸ List.mem_append_right _ List.mem_cons_self) unsaid
  | some ticket =>
    obtain ⟨-, -, nothing⟩ :=
      (List.append_cons_inj_of_notMem unsaid List.not_mem_nil).mp told.symm
    exact (List.append_eq_nil_iff.mp nothing.symm).1

end Carried

end Line

namespace Loopback

variable {l l' : Loopback τ σ P Req Resp S}

/-- The link of a loopback, with nothing taken that is not accepted. -/
def line (l : Loopback τ σ P Req Resp S) : Line P where
  link := l.far.link
  routed := l.far.target.isSome

/-- The client takes a part, asks for what it wants on its account, and then the part is
accepted. -/
theorem carried_part {part : ResponsePart P} {ticket : Nat} {link : Link P}
    (next : l.far.link.deliver? = some (.part part ticket, link)) (moved : l.deliver? = some l') :
    l.line.Carried l'.line ([.deliver] ++ (l.answers.map TransportOp.act ++ [.delivered]))
      l.answers ([] : List (Server.Move σ P Req Resp)) := by
  have shown : l.line.Carried { l.line with link, delivering := some (part, ticket) } [.deliver] []
      ([] : List (Server.Move σ P Req Resp)) := .deliver rfl next
  have asked := shown.trans (.requests _ rfl (l.near.onPart part).2)
  have accepted := asked.trans (.delivered rfl)
  unfold deliver? at moved
  rw [next] at moved
  cases moved
  have answers : l.answers = (l.near.onPart part).2 := by rw [Loopback.answers, next]
  rw [answers]
  rw [List.nil_append, List.append_nil, List.append_assoc] at accepted
  exact accepted

/-- The client takes what is next. -/
theorem carried_deliver (moved : l.deliver? = some l') :
    ∃ acts, l.line.Carried l'.line acts l.answers ([] : List (Server.Move σ P Req Resp)) := by
  cases next : l.far.link.deliver? with
  | none => simp [deliver?, next] at moved
  | some out =>
    obtain ⟨step, link⟩ := out
    cases step with
    | part part ticket => exact ⟨_, carried_part next moved⟩
    | error =>
      have failed : l.line.Carried { l.line with link } [.deliver] []
          ([] : List (Server.Move σ P Req Resp)) := .fail rfl rfl next
      have asked := failed.trans (.requests _ rfl (l.near.onError Link.noStatus).2)
      unfold deliver? at moved
      rw [next] at moved
      cases moved
      have answers : l.answers = (l.near.onError Link.noStatus).2 := by rw [Loopback.answers, next]
      rw [answers]
      exact ⟨_, asked⟩

/-- What is done to the served call leaves its parts in the queue. -/
theorem onServing_eq (far : FarEnd σ P Req Resp S)
    (f : Server.Serving σ P Req Resp S → Server.Serving σ P Req Resp S × List (ResponsePart P)) :
    ∃ parts : List (ResponsePart P),
      (far.onServing f).link = parts.foldl Link.respond far.link ∧
        (far.onServing f).target = far.target := by
  unfold FarEnd.onServing
  cases far.serving with
  | none => exact ⟨[], rfl, rfl⟩
  | some serving => exact ⟨(f serving).2, rfl, rfl⟩

theorem line_far {far : FarEnd σ P Req Resp S} (target : far.target = l.far.target) :
    { l with far }.line = { l.line with link := far.link } := by
  unfold line
  rw [target]

/-- The server takes a part or a cancellation, and replies to it. -/
theorem carried_taken {item : ToServer P} {link : Link P}
    (f : Server.Serving σ P Req Resp S → Server.Serving σ P Req Resp S × List (ResponsePart P))
    (here : l.line.serve = l.line.take item link) {far : FarEnd σ P Req Resp S}
    (target : far.target = ({ l.far with link }.onServing f).target)
    (accepted : far.link = item.accept ({ l.far with link }.onServing f).link) :
    ∃ acts, l.line.Carried { l with far }.line acts []
      ([item.op.move] : List (Server.Move σ P Req Resp)) := by
  obtain ⟨parts, replied, kept⟩ := onServing_eq { l.far with link } f
  rw [line_far (target.trans kept), accepted, replied]
  exact ⟨_, .serve rfl here parts⟩

/-- The server takes what is next, and replies to it. -/
theorem carried_serve {far : FarEnd σ P Req Resp S} (moved : l.far.serve? = some far) :
    ∃ acts, l.line.Carried { l with far }.line acts [] l.far.handed := by
  cases next : l.far.link.serve? with
  | none => simp [FarEnd.serve?, next] at moved
  | some out =>
    obtain ⟨step, link⟩ := out
    unfold FarEnd.serve? at moved
    unfold FarEnd.handed
    rw [next] at moved ⊢
    have serve : l.line.link.serve? = some (step, link) := next
    have hand : l.line.serving = none := rfl
    have far_eq := Option.some.inj moved
    cases step with
    | dispatch =>
      refine ⟨[.serve], ?_⟩
      cases found : l.far.target with
      | some target =>
        have routed : l.line.routed = true := by simp [line, found]
        have here : l.line.serve = ({ l.line with link }, []) := by
          simp only [Line.serve, serve, hand, routed, if_true]
        have same : far.target = l.far.target ∧ far.link = link := by
          rw [← far_eq]
          unfold FarEnd.dispatch
          dsimp only
          rw [found]
          exact ⟨rfl, rfl⟩
        rw [line_far same.1, same.2]
        exact .turn here
      | none =>
        have same : far.target = l.far.target ∧
            far.link = (link.respond (Server.notFound P)).dropServer := by
          rw [← far_eq]
          unfold FarEnd.dispatch
          dsimp only
          rw [found]
          exact ⟨rfl, rfl⟩
        rw [line_far same.1, same.2]
        exact .unknown hand (by simp [line, found]) serve
    | part part ticket =>
      have here : l.line.serve = l.line.take (.part part ticket) link := by
        simp only [Line.serve, serve, hand]
      subst far_eq
      exact carried_taken (·.receive part) here rfl rfl
    | cancel ticket =>
      have here : l.line.serve = l.line.take (.cancel ticket) link := by
        simp only [Line.serve, serve, hand]
      subst far_eq
      exact carried_taken (·.receiveError .cancelled) here rfl rfl
    | release =>
      have same : far.target = l.far.target ∧ far.link = link := by
        rw [← far_eq]
        unfold FarEnd.onServing
        dsimp only
        split <;> exact ⟨rfl, rfl⟩
      have here : l.line.serve = ({ l.line with link }, []) := by
        simp only [Line.serve, serve, hand]
      rw [line_far same.1, same.2]
      exact ⟨[.serve], (Line.Carried.turn here).of_untold rfl rfl⟩

/-- A step of a loopback is made of acts on its line. -/
theorem carried_step {ops : List (TransportOp P)} {moves : List (Server.Move σ P Req Resp)}
    (step : l.Step ops moves l') : ∃ acts, l.line.Carried l'.line acts ops moves := by
  cases step with
  | act acts => exact ⟨_, .requests l.line rfl _⟩
  | deliver moved => exact carried_deliver moved
  | serve moved => exact carried_serve moved
  | @work s move serving own =>
    have quiet : [move].filter Server.Move.isTold = [] := by cases move <;> first | rfl | cases own
    exact ⟨_, (Line.Carried.replies l.line (s.perform move).2).of_untold rfl quiet⟩
  | @dissolve far moved =>
    have same : far.target = l.far.target ∧ far.link = l.far.link.dropServer := by
      unfold FarEnd.dissolve? at moved
      split at moved
      · cases moved
      · obtain ⟨s, -, rfl⟩ := Option.map_eq_some_iff.mp moved
        exact ⟨rfl, rfl⟩
    rw [line_far same.1, same.2]
    exact ⟨[.leave], ⟨rfl, rfl, rfl⟩⟩

theorem carried_run {asked : List (TransportOp P)} {moves : List (Server.Move σ P Req Resp)}
    (runs : l.Runs asked moves l') : ∃ acts, l.line.Carried l'.line acts asked moves := by
  induction runs with
  | refl l => exact ⟨[], .refl l.line⟩
  | step first rest ih =>
    obtain ⟨begun, first⟩ := carried_step first
    obtain ⟨later, rest⟩ := ih
    exact ⟨begun ++ later, first.trans rest⟩

/-- What the client asks for as a call starts. -/
def opening (setup : Client.Setup τ P Req Resp) (shared : τ) (now : Nat) (request : Option Req) :
    List (TransportOp P) :=
  (Active.start setup shared now (.ok ()) request).2

/-- A call over a link that was not used before starts with the invocation. -/
theorem carried_start (setup : Client.Setup τ P Req Resp) (shared : τ) (now : Nat)
    {far : FarEnd σ P Req Resp S} (unused : far.link = {}) (request : Option Req) :
    (Line.fresh far.target.isSome).Carried (start setup shared now far request).line
      (.invoke :: (opening setup shared now request).map TransportOp.act)
      (opening setup shared now request) ([] : List (Server.Move σ P Req Resp)) := by
  have invoked : (Line.fresh far.target.isSome : Line P).Carried
      { routed := far.target.isSome, link := ({} : Link P).invoke.2 } [.invoke] []
      ([] : List (Server.Move σ P Req Resp)) := ⟨rfl, rfl, rfl⟩
  have same : (start setup shared now far request).line =
      { routed := far.target.isSome
        link := (opening setup shared now request).foldl apply ({} : Link P).invoke.2 } := by
    unfold start line
    rw [unused]
    rfl
  rw [same]
  exact invoked.trans (.requests _ rfl _)

/-- A loopback loses nothing: what its client asks for is what its line carries, and what its line
carries is what its server is told. -/
theorem carries_run {setup : Client.Setup τ P Req Resp} {shared : τ} {now : Nat}
    {far : FarEnd σ P Req Resp S} {request : Option Req} (unused : far.link = {})
    {asked : List (TransportOp P)} {moves : List (Server.Move σ P Req Resp)}
    (runs : (start setup shared now far request).Runs asked moves l) :
    ∃ trace, l.line.Carries trace ∧
      Line.asked trace = opening setup shared now request ++ asked ∧
      moves.filter Server.Move.isTold = (Line.taken trace).map fun item => item.op.move := by
  obtain ⟨acts, ran⟩ := carried_run runs
  have carried := (carried_start setup shared now unused request).trans ran
  exact ⟨_, carried.carries, carried.asked, carried.told⟩

end Loopback

end RemoteCall
