import RemoteCall.Proofs.Server.Emission
import RemoteCall.Proofs.Server.Returning
import RemoteCall.Proofs.Server.Wire

/-!
# What a call without interceptors replies

Without interceptors the output of a call is determined by its `Deed`s: what is staged, what is
written, why the call ends, and the loss of the client, in the order in which they come about.
`Deed.reply` reads it off that list. Only what comes before the first end or loss counts. The
headers staged ahead of the first message or end go first, then come the messages that have an
encoding, and then the end for the first cause, with the trailers staged by then. However the
handler, others with a writer and the transport take turns, this is what the transport is handed
(`Serving.replies_run`).
-/

namespace RemoteCall.Server

variable {σ P Req Resp S : Type}

/-- Why the server ends a call. -/
inductive Cause where
  /-- The handler returned. -/
  | returned (result : Result Unit)
  | rejected (reason : Pass.Rejection)
  /-- A part could not be decoded. -/
  | unreadable (e : CallError)

def Cause.status : Cause → Status
  | returned (.ok ()) => .success
  | returned (.error e) => e.toStatus
  | rejected reason => reason.status
  | unreadable e => e.toStatus

/-- What matters for the output of a call. -/
inductive Deed (Resp : Type) where
  | header (name value : String)
  | trailer (name value : String)
  | message (message : Resp) (flags : MessageFlags)
  | finish (cause : Cause)
  /-- The client is lost. -/
  | loss

namespace Deed

def header? : Deed Resp → Option (String × String)
  | header name value => some (name, value)
  | _ => none

def trailer? : Deed Resp → Option (String × String)
  | trailer name value => some (name, value)
  | _ => none

def isMessage : Deed Resp → Bool
  | message _ _ => true
  | _ => false

/-- Whether nothing is let out after this. -/
def ends : Deed Resp → Bool
  | finish _ => true
  | loss => true
  | _ => false

/-- The part for a message that has an encoding. -/
def part? (encode : Resp → Result P) : Deed Resp → Option (ResponsePart P)
  | message a flags => ((ResponsePart.message a flags).tryMap encode).toOption
  | _ => none

/-- The headers that are staged by these deeds. -/
def headers (deeds : List (Deed Resp)) : Metadata := .ofList (deeds.filterMap header?)

def trailers (deeds : List (Deed Resp)) : Metadata := .ofList (deeds.filterMap trailer?)

/-- What comes before the first end or loss. -/
def audible (deeds : List (Deed Resp)) : List (Deed Resp) := deeds.takeWhile (!·.ends)

/-- What comes before the first message. -/
def preface (deeds : List (Deed Resp)) : List (Deed Resp) := deeds.takeWhile (!·.isMessage)

/-- The end, if there is one before the client is lost. -/
def ending? (deeds : List (Deed Resp)) : Option (ResponsePart P) :=
  match deeds.find? ends with
  | some (finish cause) => some (.finish cause.status (trailers (audible deeds)))
  | _ => none

/-- What the transport is handed. -/
def reply (encode : Resp → Result P) (deeds : List (Deed Resp)) : List (ResponsePart P) :=
  if (audible deeds).any isMessage || (ending? (P := P) deeds).isSome then
    .headers (headers (preface (audible deeds))) ::
      ((audible deeds).filterMap (part? encode) ++ (ending? deeds).toList)
  else []

variable {deeds : List (Deed Resp)} {encode : Resp → Result P}

/-- Nothing has ended the output. -/
def Open (deeds : List (Deed Resp)) : Prop := ∀ deed ∈ deeds, deed.ends = false

theorem audible_append_of_open (open_ : Open deeds) (more : List (Deed Resp)) :
    audible (deeds ++ more) = deeds ++ audible more :=
  List.takeWhile_append_of_pos fun deed mem => by rw [open_ deed mem]; rfl

theorem audible_of_open (open_ : Open deeds) : audible deeds = deeds := by
  have all := audible_append_of_open open_ []
  rwa [List.append_nil, show audible ([] : List (Deed Resp)) = [] from rfl, List.append_nil] at all

theorem ending?_append_of_open (open_ : Open deeds) (more : List (Deed Resp)) :
    ending? (P := P) (deeds ++ more) = match more.find? ends with
      | some (finish cause) => some (.finish cause.status (trailers (deeds ++ audible more)))
      | _ => none := by
  have none : deeds.find? ends = none :=
    List.find?_eq_none.mpr fun deed mem => by rw [open_ deed mem]; nofun
  unfold ending?
  rw [List.find?_append, none, Option.none_or, audible_append_of_open open_]

theorem ending?_of_open (open_ : Open deeds) : ending? (P := P) deeds = none := by
  have none := ending?_append_of_open (P := P) open_ []
  rwa [List.append_nil] at none

/-- What was not ended has replied with the headers and what was written. -/
theorem reply_of_open (open_ : Open deeds) :
    reply encode deeds = if deeds.any isMessage then
      .headers (headers (preface deeds)) :: deeds.filterMap (part? encode) else [] := by
  unfold reply
  rw [audible_of_open open_, ending?_of_open open_, Option.isSome_none, Bool.or_false,
    Option.toList_none, List.append_nil]

/-- What goes ahead of the next part. -/
def greeting (deeds : List (Deed Resp)) : List (ResponsePart P) :=
  if deeds.any isMessage then [] else [.headers (headers deeds)]

theorem takeWhile_append_of_stops {α : Type} {p : α → Bool} {xs : List α}
    (stops : xs.any (!p ·) = true) (ys : List α) : (xs ++ ys).takeWhile p = xs.takeWhile p := by
  induction xs with
  | nil => cases stops
  | cons x rest ih =>
    cases holds : p x with
    | false => simp [holds]
    | true =>
      rw [List.any_cons, holds, Bool.not_true, Bool.false_or] at stops
      simp [holds, ih stops]

theorem preface_of_message (some : deeds.any isMessage = true) (more : List (Deed Resp)) :
    preface (deeds ++ more) = preface deeds :=
  takeWhile_append_of_stops (by simpa only [Bool.not_not] using some) more

theorem preface_of_none (none : deeds.any isMessage = false) (more : List (Deed Resp)) :
    preface (deeds ++ more) = deeds ++ preface more := by
  refine List.takeWhile_append_of_pos fun deed mem => ?_
  rw [List.any_eq_false] at none
  simpa using none deed mem

theorem filterMap_part?_of_none (none : deeds.any isMessage = false) :
    deeds.filterMap (part? encode) = [] := by
  rw [List.any_eq_false] at none
  refine List.filterMap_eq_nil_iff.mpr fun deed mem => ?_
  cases deed with
  | message a flags => exact absurd rfl (none _ mem)
  | _ => rfl

/-- After the first end or loss nothing counts. -/
theorem reply_append_of_over (concluded : deeds.any ends = true) (more : List (Deed Resp)) :
    reply encode (deeds ++ more) = reply encode deeds := by
  have same : audible (deeds ++ more) = audible deeds :=
    takeWhile_append_of_stops (by simpa only [Bool.not_not] using concluded) more
  have some_ := List.find?_isSome.mpr (List.any_eq_true.mp concluded)
  obtain ⟨first, found⟩ := Option.isSome_iff_exists.mp some_
  have ending : ending? (P := P) (deeds ++ more) = ending? deeds := by
    unfold ending?
    rw [List.find?_append, found, Option.some_or, same]
  unfold reply
  rw [same, ending]

theorem Open.concat (open_ : Open deeds) {deed : Deed Resp} (goesOn : deed.ends = false) :
    Open (deeds ++ [deed]) :=
  List.forall_mem_append.mpr ⟨open_, List.forall_mem_singleton.mpr goesOn⟩

theorem any_isMessage_concat (deeds : List (Deed Resp)) {deed : Deed Resp}
    (quiet : deed.isMessage = false) :
    (deeds ++ [deed]).any isMessage = deeds.any isMessage := by
  rw [List.any_append, List.any_cons, List.any_nil, quiet, Bool.or_false, Bool.or_false]

/-- Staging says nothing. -/
theorem reply_quiet (open_ : Open deeds) {deed : Deed Resp} (goesOn : deed.ends = false)
    (quiet : deed.isMessage = false) : reply encode (deeds ++ [deed]) = reply encode deeds := by
  have nothing : part? encode deed = none := by
    cases deed with
    | message a flags => cases quiet
    | _ => rfl
  rw [reply_of_open open_, reply_of_open (open_.concat goesOn), any_isMessage_concat deeds quiet,
    List.filterMap_append,
    List.filterMap_cons_none nothing, List.filterMap_nil, List.append_nil]
  cases some : deeds.any isMessage with
  | true => rw [preface_of_message some]
  | false => rfl

theorem reply_message (open_ : Open deeds) (a : Resp) (flags : MessageFlags) :
    reply encode (deeds ++ [.message a flags]) =
      reply encode deeds ++ (greeting deeds ++ (part? encode (.message a flags)).toList) := by
  have more : [.message a flags].filterMap (part? encode) =
      (part? encode (.message a flags)).toList := by
    rw [List.filterMap_cons]
    cases part? encode (.message a flags) <;> rfl
  rw [reply_of_open open_, reply_of_open (open_.concat rfl), List.any_append,
    show [Deed.message a flags].any isMessage = true from rfl, Bool.or_true, if_pos rfl,
    List.filterMap_append]
  unfold greeting
  cases some : deeds.any isMessage with
  | true =>
    rw [preface_of_message some]
    rfl
  | false =>
    rw [preface_of_none some, filterMap_part?_of_none some, more,
      show preface [Deed.message a flags] = [] from rfl, List.append_nil]
    rfl

theorem reply_finish (open_ : Open deeds) (cause : Cause) :
    reply encode (deeds ++ [.finish cause]) =
      reply encode deeds ++ (greeting deeds ++ [.finish cause.status (trailers deeds)]) := by
  have heard : audible (deeds ++ [.finish cause]) = deeds := by
    rw [audible_append_of_open open_]
    exact List.append_nil deeds
  have ending : ending? (P := P) (deeds ++ [.finish cause]) =
      some (.finish cause.status (trailers deeds)) := by
    rw [ending?_append_of_open open_]
    show some (ResponsePart.finish cause.status (trailers (deeds ++ []))) = _
    rw [List.append_nil]
  rw [reply_of_open open_]
  unfold reply greeting
  rw [heard, ending, Option.isSome_some, Bool.or_true, if_pos rfl]
  cases some : deeds.any isMessage with
  | true => rfl
  | false =>
    have all := preface_of_none some []
    rw [List.append_nil, show preface ([] : List (Deed Resp)) = [] from rfl, List.append_nil] at all
    rw [all, filterMap_part?_of_none some]
    rfl

theorem reply_loss (open_ : Open deeds) :
    reply encode (deeds ++ [.loss]) = reply encode deeds := by
  have heard : audible (deeds ++ [.loss]) = deeds := by
    rw [audible_append_of_open open_]
    exact List.append_nil deeds
  have ending : ending? (P := P) (deeds ++ [.loss]) = none := ending?_append_of_open open_ _
  unfold reply
  rw [heard, ending, audible_of_open open_, ending?_of_open open_]

theorem headers_concat (deeds : List (Deed Resp)) (deed : Deed Resp) :
    headers (deeds ++ [deed]) =
      deed.header?.elim (headers deeds) fun entry => (headers deeds).insert entry.1 entry.2 := by
  unfold headers Metadata.ofList
  rw [List.filterMap_append, List.foldl_append]
  cases deed <;> rfl

theorem trailers_concat (deeds : List (Deed Resp)) (deed : Deed Resp) :
    trailers (deeds ++ [deed]) =
      deed.trailer?.elim (trailers deeds) fun entry => (trailers deeds).insert entry.1 entry.2 := by
  unfold trailers Metadata.ofList
  rw [List.filterMap_append, List.foldl_append]
  cases deed <;> rfl

end Deed

/-! ### Deeds of a call -/

/-- What a use of the context is for the output. -/
def Use.deed? (Resp : Type) : Use σ → Option (Deed Resp)
  | stageHeader name value => some (.header name value)
  | stageTrailer name value => some (.trailer name value)
  | _ => none

/-- What an event is for the output. -/
def Event.deed? (method : Method σ P Req Resp) (call : Call σ Req) :
    Event σ P Req Resp → Option (Deed Resp)
  | receive part =>
    match part.tryMap method.requests.decode with
    | .error e => some (.finish (.unreadable e))
    | .ok decoded =>
      match (Pass.advance method.shape.streamsRequests call decoded).2 with
      | .reject reason => some (.finish (.rejected reason))
      | _ => none
  | error _ => some .loss
  | release => if call.isCancelled then none else some .loss
  | write transport message compression =>
    some (.message message (call.context.flags transport compression))
  | finish result => some (.finish (.returned result))
  | use how => how.deed? Resp
  | poll => none
  | abandon => none

/-- The deeds of a run, in order. -/
def Call.deeds (method : Method σ P Req Resp) :
    List (Event σ P Req Resp) → Call σ Req → List (Deed Resp)
  | [], _ => []
  | event :: rest, call =>
    (event.deed? method call).toList ++ deeds method rest (event.pass method call).call

theorem Call.deeds_append (method : Method σ P Req Resp) (first second : List (Event σ P Req Resp))
    (call : Call σ Req) :
    call.deeds method (first ++ second) =
      call.deeds method first ++ (call.run method first).deeds method second := by
  induction first generalizing call with
  | nil => rfl
  | cons event rest ih =>
    rw [List.cons_append, deeds, deeds, ih, List.append_assoc]
    rfl

/-! ### What a call keeps to -/

/-- What matters of a call for its output. -/
structure Voice where
  ended : Bool
  suppressed : Bool
  headersSent : Bool
  order : ResponseOrder
  headers : Metadata
  trailers : Metadata

def Call.voice (call : Call σ Req) : Voice where
  ended := call.ended
  suppressed := call.suppressed
  headersSent := call.headersSent
  order := call.order
  headers := call.context.responseHeaders
  trailers := call.context.trailers

/-- Whether the outbound gate is closed. -/
def Voice.IsShut (v : Voice) : Prop := (v.ended || v.suppressed) = true

/-- The voice of a call after these deeds. -/
inductive Voice.Tells (deeds : List (Deed Resp)) (v : Voice) : Prop
  | open (open_ : Deed.Open deeds) (ended : v.ended = false) (suppressed : v.suppressed = false)
      (opened : v.headersSent = deeds.any Deed.isMessage)
      (order : v.order = if v.headersSent then .streaming else .fresh)
      (headers : v.headersSent = false → v.headers = Deed.headers deeds)
      (trailers : v.trailers = Deed.trailers deeds)
  | concluded (concluded : deeds.any Deed.ends = true) (shut : v.IsShut)

/-- After these deeds a pass comes to more of them, and hands over what they add to the reply. -/
structure Pass.Adds (encode : Resp → Result P) (deeds more : List (Deed Resp))
    (p : Pass σ P Req) : Prop where
  tells : p.call.voice.Tells (deeds ++ more)
  parts : Deed.reply encode (deeds ++ more) = Deed.reply encode deeds ++ p.parts

section Plain

variable {method : Method σ P Req Resp} {encode : Resp → Result P} {deeds more : List (Deed Resp)}
  {call : Call σ Req} {p : Pass σ P Req}

/-- What does not touch the output of a call. -/
theorem Voice.Tells.silent (tells : call.voice.Tells deeds) (voice : p.call.voice = call.voice)
    (silent : p.parts = []) : p.Adds encode deeds [] := by
  refine ⟨?_, ?_⟩
  · rw [List.append_nil, voice]
    exact tells
  · rw [List.append_nil, silent, List.append_nil]

/-- Behind an end or the loss, whatever is done adds nothing. -/
theorem Pass.Adds.of_over (concluded : deeds.any Deed.ends = true) (shut : p.call.voice.IsShut)
    (silent : p.parts = []) : p.Adds encode deeds more := by
  refine ⟨.concluded ?_ shut, ?_⟩
  · rw [List.any_append, concluded, Bool.true_or]
  · rw [Deed.reply_append_of_over concluded, silent, List.append_nil]

/-- Staging adds nothing to the reply so far. -/
theorem Voice.Tells.stage (tells : call.voice.Tells deeds) (how : Use σ) :
    (Pass.start { call with context := how.apply call.context } : Pass σ P Req).Adds encode deeds
      (how.deed? Resp).toList := by
  cases tells with
  | concluded concluded shut => exact .of_over concluded (by cases how <;> exact shut) rfl
  | «open» open_ ended suppressed opened order headers trailers =>
    have kept : call.voice.Tells deeds :=
      .open open_ ended suppressed opened order headers trailers
    have staged : ∀ {deed : Deed Resp} {p : Pass σ P Req}, deed.ends = false →
        deed.isMessage = false → p.parts = [] → p.call.voice.Tells (deeds ++ [deed]) →
        p.Adds encode deeds [deed] := fun goesOn quiet silent tells =>
      ⟨tells, by rw [Deed.reply_quiet open_ goesOn quiet, silent, List.append_nil]⟩
    cases how with
    | allowCompression allowed => exact kept.silent rfl rfl
    | note update => exact kept.silent rfl rfl
    | stageHeader name value =>
      have quiet : (Deed.header name value : Deed Resp).isMessage = false := rfl
      have opened := opened.trans (Deed.any_isMessage_concat deeds quiet).symm
      refine staged rfl rfl rfl
        (.open (open_.concat rfl) ended suppressed opened order (fun unsent => ?_) ?_)
      · rw [Deed.headers_concat]
        exact congrArg (Metadata.insert · name value) (headers unsent)
      · rw [Deed.trailers_concat]
        exact trailers
    | stageTrailer name value =>
      have quiet : (Deed.trailer name value : Deed Resp).isMessage = false := rfl
      have opened := opened.trans (Deed.any_isMessage_concat deeds quiet).symm
      refine staged rfl rfl rfl
        (.open (open_.concat rfl) ended suppressed opened order (fun unsent => ?_) ?_)
      · rw [Deed.headers_concat]
        exact headers unsent
      · rw [Deed.trailers_concat]
        exact congrArg (Metadata.insert · name value) trailers

/-- With the client everything that would follow is lost. -/
theorem Voice.Tells.loss (tells : call.voice.Tells deeds) (shut : p.call.voice.IsShut)
    (silent : p.parts = []) : p.Adds encode deeds [.loss] := by
  cases tells with
  | concluded concluded _ => exact .of_over concluded shut silent
  | «open» open_ ended suppressed opened order headers trailers =>
    refine ⟨.concluded ?_ shut, ?_⟩
    · rw [List.any_append]
      exact Bool.or_true _
    · rw [Deed.reply_loss open_, silent, List.append_nil]

theorem Pass.emit_of_shut (shut : p.call.voice.IsShut) (part : ResponsePart Resp) :
    emit method part p = (.error .streamAlreadyClosed, p) := by
  unfold emit
  rw [if_pos]
  exact shut

/-- What goes ahead of the next part is what was staged before it, if it is the first. -/
theorem Call.greeting_eq (opened : call.headersSent = deeds.any Deed.isMessage)
    (headers : call.headersSent = false → call.context.responseHeaders = Deed.headers deeds) :
    (call.greeting : List (ResponsePart P)) = Deed.greeting deeds := by
  unfold greeting Deed.greeting
  rw [← opened]
  cases sent : call.headersSent with
  | true => rfl
  | false => rw [headers sent]

/-- An end is handed over if it is the first and the client is there. -/
theorem Voice.Tells.finish (plain : method.chain = .empty) (tells : call.voice.Tells deeds)
    (cause : Cause) :
    (Pass.finish method cause.status (.start call)).Adds encode deeds [.finish cause] := by
  cases tells with
  | concluded concluded shut =>
    have staged : ((Pass.start call : Pass σ P Req).mapCall fun call =>
        { call with context := { call.context with trailers := .empty } }).call.voice.IsShut := shut
    have refused : Pass.finish method cause.status (.start call) = _ :=
      congrArg Prod.snd (Pass.emit_of_shut staged (.finish cause.status call.context.trailers))
    rw [refused]
    exact .of_over concluded shut rfl
  | «open» open_ ended suppressed opened order headers trailers =>
    have greets := Call.greeting_eq (P := P) opened headers
    rw [Pass.finish_plain plain ⟨ended, suppressed, order⟩]
    refine ⟨.concluded ?_ rfl, ?_⟩
    · rw [List.any_append]
      exact Bool.or_true _
    · rw [Deed.reply_finish open_, Pass.parts_handing, greets,
        show call.context.trailers = Deed.trailers deeds from trailers]

/-- Opening the response leaves the gate open. -/
theorem Call.Flows.greeted (flows : call.Flows) :
    call.greeted.Flows ∧ call.greeted.headersSent = true ∧
      call.greeted.context.trailers = call.context.trailers := by
  obtain ⟨ended, suppressed, order⟩ := flows
  unfold Call.greeted
  cases opened : call.headersSent with
  | true => exact ⟨⟨ended, suppressed, order⟩, opened, rfl⟩
  | false => exact ⟨⟨ended, suppressed, rfl⟩, rfl, rfl⟩

/-- A written message is handed over if it has an encoding and the gate is open. -/
theorem Voice.Tells.emit (plain : method.chain = .empty) (tells : call.voice.Tells deeds)
    (a : Resp) (flags : MessageFlags) :
    (Pass.emit method (.message a flags) (.start call)).2.Adds method.responses.encode deeds
      [.message a flags] := by
  cases tells with
  | concluded concluded shut =>
    have refused : (Pass.emit method (.message a flags) (.start call)).2 = .start call :=
      congrArg Prod.snd (Pass.emit_of_shut shut (.message a flags))
    rw [refused]
    exact .of_over concluded shut rfl
  | «open» open_ ended suppressed opened order headers trailers =>
    have flows : call.Flows := ⟨ended, suppressed, order⟩
    have greets := Call.greeting_eq (P := P) opened headers
    -- Whether it has an encoding matters for the parts, and not for the voice.
    have opens : ∀ sent, { call.greeted with sent }.voice.Tells
        (deeds ++ [Deed.message a flags]) := by
      intro sent
      obtain ⟨still, spoken, staged⟩ := flows.greeted
      have some : (deeds ++ [Deed.message a flags]).any Deed.isMessage = true := by
        rw [List.any_append]
        exact Bool.or_true _
      refine .open (open_.concat rfl) still.ended still.suppressed (spoken.trans some.symm)
        still.order (fun unsent => absurd (spoken.symm.trans unsent) nofun) ?_
      rw [Deed.trailers_concat]
      exact staged.trans trailers
    cases encodes : method.responses.encode a with
    | ok payload =>
      rw [Pass.emit_message plain flows encodes]
      refine ⟨opens _, ?_⟩
      rw [Deed.reply_message open_, Pass.parts_handing, greets]
      simp [Deed.part?, ResponsePart.tryMap, encodes, Except.toOption]
    | error e =>
      rw [Pass.emit_unencodable plain flows encodes]
      refine ⟨opens _, ?_⟩
      have parts : (Pass.handing call call.greeted call.greeting : Pass σ P Req).parts =
        Deed.greeting deeds := (Pass.parts_handing ..).trans greets
      rw [Deed.reply_message open_]
      show _ = _ ++ (Pass.handing call call.greeted call.greeting : Pass σ P Req).parts
      rw [parts]
      simp [Deed.part?, ResponsePart.tryMap, encodes, Except.toOption]

theorem Pass.voice_advance (streams : Bool) (call : Call σ Req) (part : RequestPart Req) :
    (advance streams call part).1.voice = call.voice := by
  obtain ⟨inbound, requests, headers, same⟩ := call_advance streams call part
  rw [same]
  rfl

theorem Call.voice_closeInbound (call : Call σ Req) (e : CallError) :
    (call.closeInbound e).voice = call.voice := by
  obtain ⟨requests, same⟩ := Pass.call_closeInbound call e
  rw [same]
  rfl

/-- A part that is received adds the end for it, if it is rejected. -/
theorem Voice.Tells.receive (plain : method.chain = .empty) (tells : call.voice.Tells deeds)
    (part : RequestPart P) :
    (call.receive method part).Adds method.responses.encode deeds
      ((Event.receive part).deed? method call).toList := by
  simp only [Call.receive, Event.deed?]
  cases part.tryMap method.requests.decode with
  | error e =>
    have closed : (call.closeInbound e).voice.Tells deeds :=
      (call.voice_closeInbound e).symm ▸ tells
    exact closed.finish plain (.unreadable e)
  | ok decoded =>
    have voice := Pass.voice_advance method.shape.streamsRequests call decoded
    have received : method.chain.receive (Pass.inboundEdges method) call.context.path decoded
        (.start call) = Pass.onRequest method decoded (.start call) := by rw [plain]; rfl
    simp only [received, Pass.onRequest]
    cases advanced : Pass.advance method.shape.streamsRequests call decoded with
    | mk call' reaction =>
      have begun : Pass.advance method.shape.streamsRequests (Pass.start call : Pass σ P Req).call
        decoded = (call', reaction) := advanced
      rw [advanced] at voice
      rw [begun]
      cases reaction with
      | ignore => exact tells.silent voice rfl
      | start request => exact tells.silent voice rfl
      | reject reason =>
        have rejected : call'.voice.Tells deeds := voice ▸ tells
        have ended : (Pass.finish method (Cause.rejected reason).status (.start call')).Adds
            method.responses.encode deeds [.finish (.rejected reason)] :=
          rejected.finish plain (.rejected reason)
        exact ⟨ended.tells, ended.parts⟩

/-- Every event adds what it says to the reply. -/
theorem Event.adds_pass (plain : method.chain = .empty) (tells : call.voice.Tells deeds)
    (event : Event σ P Req Resp) :
    (event.pass method call).Adds method.responses.encode deeds
      (event.deed? method call).toList := by
  cases event with
  | receive part => exact tells.receive plain part
  | use how => exact tells.stage how
  | poll => exact tells.silent rfl rfl
  | abandon => exact tells.silent rfl rfl
  | finish result =>
    have finished : (Pass.finish method (Cause.returned result).status (.start call)).Adds
        method.responses.encode deeds [.finish (.returned result)] :=
      tells.finish plain (.returned result)
    cases result with
    | ok u => exact finished
    | error e => exact finished
  | write transport message compression =>
    simp only [Event.pass, Call.write_eq]
    exact tells.emit plain message (call.context.flags transport compression)
  | error e =>
    refine tells.loss (Bool.or_true _) ?_
    simp only [Event.pass, Call.receiveError]
    rw [plain]
    rfl
  | release =>
    simp only [Event.pass, Event.deed?, Call.release]
    by_cases gone : call.isCancelled = true
    · simp only [if_pos gone]
      exact tells.silent rfl rfl
    · simp only [if_neg gone]
      exact tells.loss (Bool.or_true _) rfl

/-- The reply of a run is that of its deeds. -/
theorem Call.adds_run (plain : method.chain = .empty) (tells : call.voice.Tells deeds)
    (events : List (Event σ P Req Resp)) :
    (call.run method events).voice.Tells (deeds ++ call.deeds method events) ∧
      Deed.reply method.responses.encode (deeds ++ call.deeds method events) =
        Deed.reply method.responses.encode deeds ++ call.outputs method events := by
  induction events generalizing call deeds with
  | nil =>
    rw [show call.deeds method [] = [] from rfl, List.append_nil]
    exact ⟨tells, (List.append_nil _).symm⟩
  | cons event rest ih =>
    obtain ⟨first, said⟩ := event.adds_pass plain tells
    obtain ⟨later, all⟩ := ih first
    rw [Call.deeds, ← List.append_assoc, Call.outputs, ← List.append_assoc, ← said]
    exact ⟨later, all⟩

/-- A write is refused as long as the gate is closed, and only then. -/
theorem Call.write_refused_iff (transport : Bool) (message : Resp) (compression : Compression) :
    (call.write method transport message compression).1 = .error .streamAlreadyClosed ↔
      call.voice.IsShut := by
  rw [Call.write_eq]
  let part : ResponsePart Resp := .message message (call.context.flags transport compression)
  by_cases shut : call.voice.IsShut
  · have refused : Pass.emit method part (.start call) = _ := Pass.emit_of_shut shut part
    rw [refused]
    exact iff_of_true rfl shut
  · obtain ⟨p, passed⟩ : ∃ p, Pass.emit method part (.start call) = (.ok (), p) := by
      unfold Pass.emit
      exact ⟨_, if_neg shut⟩
    rw [passed]
    exact iff_of_false nofun shut

end Plain

/-! ### What is staged is sent once -/

/-- The entries of the headers in a response. -/
def ResponsePart.headerEntries {α : Type} : ResponsePart α → List (String × String)
  | .headers m => m.entries
  | _ => []

/-- The entries of the trailers in a response. -/
def ResponsePart.trailerEntries {α : Type} : ResponsePart α → List (String × String)
  | .finish _ trailers => trailers.entries
  | _ => []

namespace Deed

variable {encode : Resp → Result P} {first all : List (Deed Resp)}

theorem entries_headers_prefix (begins : first <+: all) :
    (headers first).entries <+: (headers all).entries := by
  unfold headers
  rw [Metadata.entries_ofList, Metadata.entries_ofList]
  exact (begins.filterMap _).map _

theorem entries_trailers_prefix (begins : first <+: all) :
    (trailers first).entries <+: (trailers all).entries := by
  unfold trailers
  rw [Metadata.entries_ofList, Metadata.entries_ofList]
  exact (begins.filterMap _).map _

theorem entries_of_messages (encode : Resp → Result P) (deeds : List (Deed Resp)) :
    (deeds.filterMap (part? encode)).flatMap ResponsePart.headerEntries = [] ∧
      (deeds.filterMap (part? encode)).flatMap ResponsePart.trailerEntries = [] := by
  have plain : ∀ part ∈ deeds.filterMap (part? encode), ∃ payload flags,
      part = .message payload flags := by
    intro part mem
    obtain ⟨deed, -, made⟩ := List.mem_filterMap.mp mem
    cases deed with
    | message a flags =>
      simp only [part?, ResponsePart.tryMap] at made
      cases encodes : encode a with
      | error e => rw [encodes] at made; cases made
      | ok payload =>
        rw [encodes] at made
        cases made
        exact ⟨payload, flags, rfl⟩
    | _ => cases made
  refine ⟨List.flatMap_eq_nil_iff.mpr fun part mem => ?_,
    List.flatMap_eq_nil_iff.mpr fun part mem => ?_⟩
  · obtain ⟨payload, flags, rfl⟩ := plain part mem
    rfl
  · obtain ⟨payload, flags, rfl⟩ := plain part mem
    rfl

/-- The end that is replied has the trailers staged before it. -/
theorem ending?_eq (deeds : List (Deed Resp)) {part : ResponsePart P}
    (ends : ending? deeds = some part) :
    ∃ cause, part = .finish (Cause.status cause) (trailers (audible deeds)) := by
  unfold ending? at ends
  split at ends
  · next cause found =>
    cases ends
    exact ⟨cause, rfl⟩
  · cases ends

/-- No staged header and no staged trailer is sent twice. -/
theorem entries_reply (encode : Resp → Result P) (deeds : List (Deed Resp)) :
    (reply encode deeds).flatMap ResponsePart.headerEntries <+: (headers deeds).entries ∧
      (reply encode deeds).flatMap ResponsePart.trailerEntries <+: (trailers deeds).entries := by
  have heard : audible deeds <+: deeds := List.takeWhile_prefix _
  have opening : preface (audible deeds) <+: deeds := (List.takeWhile_prefix _).trans heard
  obtain ⟨noHeaders, noTrailers⟩ := entries_of_messages encode (audible deeds)
  have sent : (headers (preface (audible deeds))).entries ++ [] <+: (headers deeds).entries := by
    rw [List.append_nil]
    exact entries_headers_prefix opening
  unfold reply
  split
  · rw [List.flatMap_cons, List.flatMap_cons, List.flatMap_append, List.flatMap_append, noHeaders,
      noTrailers]
    cases ends : ending? (P := P) deeds with
    | none => exact ⟨sent, List.nil_prefix⟩
    | some part =>
      obtain ⟨cause, rfl⟩ := ending?_eq deeds ends
      refine ⟨sent, ?_⟩
      show (trailers (audible deeds)).entries ++ [] <+: _
      rw [List.append_nil]
      exact entries_trailers_prefix heard
  · exact ⟨List.nil_prefix, List.nil_prefix⟩

end Deed

/-! ### Why a call ends -/

/-- An end among the deeds of a run has its event. -/
theorem Call.exists_of_finish {method : Method σ P Req Resp} {cause : Cause}
    {events : List (Event σ P Req Resp)} {call : Call σ Req}
    (finishes : .finish cause ∈ call.deeds method events) :
    ∃ first event rest, events = first ++ event :: rest ∧
      event.deed? method (call.run method first) = some (.finish cause) := by
  induction events generalizing call with
  | nil => cases finishes
  | cons event rest ih =>
    rcases List.mem_append.mp finishes with now | later
    · exact ⟨[], event, rest, rfl, Option.mem_toList.mp now⟩
    · obtain ⟨first, other, others, rfl, deed⟩ := ih later
      exact ⟨event :: first, other, others, rfl, deed⟩

namespace Serving

variable {s : Serving σ P Req Resp S}

/-- The deeds of moves, in order. -/
def deeds (moves : List (Move σ P Req Resp)) (s : Serving σ P Req Resp S) : List (Deed Resp) :=
  s.call.deeds s.method (s.history moves)

/-- With this move there is a cause to end the call: the handler returns, or a part arrives that
cannot be decoded or that the request side rejects. -/
inductive Causes (s : Serving σ P Req Resp S) (before : List (Move σ P Req Resp)) :
    Move σ P Req Resp → Cause → Prop
  | returned {move : Move σ P Req Resp} {result : Result Unit}
      (returns : s.Returns before move result) : Causes s before move (.returned result)
  | rejected {part : RequestPart P} {decoded : RequestPart Req} {reason : Pass.Rejection}
      (decodes : part.tryMap s.method.requests.decode = .ok decoded)
      (rejects : (Pass.advance s.method.shape.streamsRequests (s.run before).call decoded).2 =
        .reject reason) : Causes s before (.receive part) (.rejected reason)
  | unreadable {part : RequestPart P} {e : CallError}
      (fails : part.tryMap s.method.requests.decode = .error e) :
      Causes s before (.receive part) (.unreadable e)

/-- Only the delivery of a part is the receipt of one. -/
theorem eq_of_receive_mem_events {move : Move σ P Req Resp} {part : RequestPart P}
    (receives : .receive part ∈ s.events move) : move = .receive part := by
  cases own : move.isTransport with
  | false => cases s.isOwn_events own _ receives
  | true =>
    cases move with
    | receive part' =>
      cases List.mem_singleton.mp receives
      rfl
    | error e => cases List.mem_singleton.mp receives
    | release => cases List.mem_singleton.mp receives
    | _ => cases own

/-- An event that is an end has its cause. -/
theorem causes_of_deed (begins : s.task.answering? = none) {before : List (Move σ P Req Resp)}
    {move : Move σ P Req Resp} {first rest : List (Event σ P Req Resp)}
    {event : Event σ P Req Resp} {cause : Cause}
    (split : (s.run before).events move = first ++ event :: rest)
    (deed : event.deed? s.method ((s.run before).call.run s.method first) = some (.finish cause)) :
    s.Causes before move cause := by
  have mem : event ∈ (s.run before).events move := by
    rw [split]
    exact List.mem_append_right _ List.mem_cons_self
  cases event with
  | finish result =>
    cases deed
    exact .returned (returns_of_finish begins mem)
  | receive part =>
    obtain rfl := eq_of_receive_mem_events mem
    obtain ⟨rfl, -⟩ : first = [] ∧ rest = [] := by
      have single := congrArg List.length split
      simp only [events, List.length_append, List.length_cons, List.length_nil] at single
      exact ⟨List.eq_nil_of_length_eq_zero (by omega), List.eq_nil_of_length_eq_zero (by omega)⟩
    simp only [Event.deed?] at deed
    split at deed
    · next e fails =>
      cases deed
      exact .unreadable fails
    · next decoded decodes =>
      split at deed
      · next reason rejects =>
        cases deed
        exact .rejected decodes rejects
      · cases deed
  | release =>
    simp only [Event.deed?] at deed
    split at deed <;> cases deed
  | use how => cases how <;> cases deed
  | _ => cases deed

theorem exists_cause (begins : s.task.answering? = none) {moves : List (Move σ P Req Resp)}
    {cause : Cause} (finishes : .finish cause ∈ s.deeds moves) :
    ∃ before move after, moves = before ++ move :: after ∧ s.Causes before move cause := by
  induction moves using List.reverseRecOn with
  | nil => cases finishes
  | append_singleton moves move ih =>
    unfold deeds at finishes
    rw [history_concat, Call.deeds_append, ← call_run] at finishes
    rcases List.mem_append.mp finishes with earlier | now
    · obtain ⟨before, first, after, rfl, causes⟩ := ih earlier
      exact ⟨before, first, after ++ [move], by simp, causes⟩
    · obtain ⟨first, event, rest, split, deed⟩ := Call.exists_of_finish now
      exact ⟨moves, move, [], rfl, causes_of_deed begins split deed⟩

/-- The output of a served call is the reply to its deeds. -/
structure Replies (s : Serving σ P Req Resp S) (moves : List (Move σ P Req Resp)) : Prop where
  parts : s.outputs moves = Deed.reply s.method.responses.encode (s.deeds moves)
  /-- A write passes the gate until there was an end or the loss of the client. -/
  gate : ∀ transport message compression,
    ((s.run moves).call.write s.method transport message compression).1 =
      .error .streamAlreadyClosed ↔ (s.deeds moves).any Deed.ends = true
  /-- What the transport gets of the staged headers are the first of them, each of them once. -/
  headers : (s.outputs moves).flatMap ResponsePart.headerEntries <+:
    (Deed.headers (s.deeds moves)).entries
  trailers : (s.outputs moves).flatMap ResponsePart.trailerEntries <+:
    (Deed.trailers (s.deeds moves)).entries
  causes : ∀ cause, .finish cause ∈ s.deeds moves →
    ∃ before move after, moves = before ++ move :: after ∧ s.Causes before move cause

/-- A call without interceptors replies to its deeds, whoever its handler is and whatever is done
to it. -/
theorem replies_run (method : Method σ P Req Resp) (plain : method.chain = .empty)
    (handler : Handler σ Req Resp S) (compression : Bool) (path : String) (shared : σ)
    (moves : List (Move σ P Req Resp)) :
    (fresh method handler compression path shared).Replies moves := by
  have begins : (Call.fresh path shared : Call σ Req).voice.Tells ([] : List (Deed Resp)) :=
    .open (List.forall_mem_nil _) rfl rfl rfl rfl (fun _ => rfl) rfl
  generalize start : fresh method handler compression path shared = s
  obtain rfl : s.method = method := start ▸ rfl
  have call : s.call = .fresh path shared := start ▸ rfl
  obtain ⟨tells, said⟩ := Call.adds_run plain (call ▸ begins) (s.history moves)
  rw [List.nil_append, ← call_run] at tells
  rw [List.nil_append, ← outputs_eq] at said
  have parts : s.outputs moves = Deed.reply s.method.responses.encode (s.deeds moves) := said.symm
  obtain ⟨headers, trailers⟩ := Deed.entries_reply s.method.responses.encode (s.deeds moves)
  rw [← parts] at headers trailers
  refine ⟨parts, fun transport message wish => ?_, headers, trailers, fun cause finishes =>
    exists_cause (by rw [← start]; rfl) finishes⟩
  rw [Call.write_refused_iff]
  cases tells with
  | concluded concluded shut => exact iff_of_true shut concluded
  | «open» open_ ended suppressed opened order headers trailers =>
    refine iff_of_false (fun shut => ?_) (fun concluded => ?_)
    · unfold Voice.IsShut at shut
      rw [ended, suppressed] at shut
      cases shut
    · obtain ⟨deed, mem, ends⟩ := List.any_eq_true.mp concluded
      cases (open_ deed mem).symm.trans ends

end Serving

end RemoteCall.Server
