import RemoteCall.Proofs.Server.Handover
import RemoteCall.Proofs.Server.Reply

/-!
# What a call without interceptors replies, step by step

Whatever overlaps, the transport gets the reply that the record of the call tells, and what was
staged is sent in order and once (`replies_in_order`). Trailers are taken ahead of the gate. So of
two attempts to end the call that overlap the one may have taken the trailers, and the other one be
let in (`Stager.trailers_taken_in_vain`).
-/

namespace RemoteCall.Server

variable {σ P Req Resp S : Type}

namespace Act

variable {acts : List (Act Req Resp)}

def header? : Act Req Resp → Option (String × String)
  | header name value => some (name, value)
  | _ => none

def trailer? : Act Req Resp → Option (String × String)
  | trailer name value => some (name, value)
  | _ => none

/-- All headers that were ever staged. -/
def allHeaders (acts : List (Act Req Resp)) : Metadata := .ofList (acts.filterMap header?)

def allTrailers (acts : List (Act Req Resp)) : Metadata := .ofList (acts.filterMap trailer?)

/-- Until the headers are taken, all of them wait. -/
theorem headers_of_untaken (untaken : opening? acts = none) : headers acts = allHeaders acts := by
  induction acts using List.reverseRecOn with
  | nil => rfl
  | append_singleton acts act ih =>
    unfold opening? at untaken ih
    rw [List.findSome?_append, Option.or_eq_none_iff] at untaken
    unfold headers allHeaders Metadata.ofList at ih ⊢
    rw [List.filterMap_append, List.foldl_append, List.foldl_append, ih untaken.1]
    cases act with
    | opens staged => cases untaken.2
    | _ => rfl

/-- The trailers that wait are the last that were staged. -/
theorem exists_trailers (acts : List (Act Req Resp)) :
    ∃ first last, acts = first ++ last ∧ trailers acts = allTrailers last := by
  induction acts using List.reverseRecOn with
  | nil => exact ⟨[], [], rfl, rfl⟩
  | append_singleton acts act ih =>
    obtain ⟨first, last, split, same⟩ := ih
    by_cases takes : ∃ status staged, act = .takes status staged
    · obtain ⟨status, staged, rfl⟩ := takes
      refine ⟨acts ++ [.takes status staged], [], (List.append_nil _).symm, ?_⟩
      unfold trailers
      rw [List.foldl_append]
      rfl
    · refine ⟨first, last ++ [act], by rw [split, List.append_assoc], ?_⟩
      unfold trailers allTrailers Metadata.ofList at same ⊢
      rw [List.foldl_append, same, List.filterMap_append, List.foldl_append]
      cases act with
      | takes status staged => exact absurd ⟨status, staged, rfl⟩ takes
      | _ => rfl

/-- The headers that were taken are the first that were staged, -/
theorem Record.headers (record : Record acts) {staged : Metadata}
    (opening : opening? acts = some staged) :
    staged.entries <+: (allHeaders acts).entries := by
  obtain ⟨before, act, after, rfl, opens, untaken⟩ := List.findSome?_eq_some_iff.mp opening
  cases act with
  | opens taken =>
    obtain rfl : taken = staged := Option.some.inj opens
    have fits : taken = Act.headers before := record before _ after rfl
    rw [fits, headers_of_untaken (List.findSome?_eq_none_iff.mpr untaken)]
    unfold allHeaders
    rw [Metadata.entries_ofList, Metadata.entries_ofList, List.filterMap_append]
    exact (List.prefix_append _ _).map _
  | _ => cases opens

/-- and the trailers of an end that has passed the gate are some that were staged in a row. -/
theorem Record.trailers (record : Record acts) {status : Status} {staged : Metadata}
    (passes : .passes (.finish status staged) ∈ acts) :
    staged.entries <:+: (allTrailers acts).entries := by
  obtain ⟨before, after, split⟩ := List.append_of_mem passes
  obtain ⟨earlier, between, split'⟩ := List.append_of_mem (record before _ after split)
  have fits : staged = Act.trailers earlier := by
    refine record earlier (.takes status staged)
      (between ++ .passes (.finish status staged) :: after) ?_
    rw [split, split', List.append_assoc, List.cons_append]
  obtain ⟨first, last, split'', same⟩ := exists_trailers earlier
  have among : last <:+: acts := by
    rw [split, split', split'', List.append_assoc, List.append_assoc]
    exact ⟨first, _, List.append_assoc _ _ _⟩
  rw [fits, same]
  unfold allTrailers
  rw [Metadata.entries_ofList, Metadata.entries_ofList]
  exact (among.filterMap _).map _

/-- What is handed over of messages has no headers and no trailers. -/
theorem AreMessages.entries {messages : List (ResponsePart Resp)} (all : AreMessages messages)
    (encode : Resp → Result P) :
    (messages.filterMap fun part => (part.tryMap encode).toOption).flatMap
        ResponsePart.headerEntries = [] ∧
      (messages.filterMap fun part => (part.tryMap encode).toOption).flatMap
        ResponsePart.trailerEntries = [] := by
  have bare : ∀ part ∈ messages.filterMap fun part => (part.tryMap encode).toOption,
      ResponsePart.headerEntries part = [] ∧ ResponsePart.trailerEntries part = [] := by
    intro encoded mem
    obtain ⟨part, mem, made⟩ := List.mem_filterMap.mp mem
    obtain ⟨a, flags, rfl⟩ := all part mem
    simp only [ResponsePart.tryMap] at made
    cases encodes : encode a with
    | error e => rw [encodes] at made; cases made
    | ok payload =>
      rw [encodes] at made
      cases made
      exact ⟨rfl, rfl⟩
  exact ⟨List.flatMap_eq_nil_iff.mpr fun part mem => (bare part mem).1,
    List.flatMap_eq_nil_iff.mpr fun part mem => (bare part mem).2⟩

/-- No staged header and no staged trailer is in a reply twice. -/
theorem Record.entries_reply (record : Record acts) (speech : IsSpeech (passed acts))
    (encode : Resp → Result P) :
    (reply encode (opening? acts) (passed acts)).flatMap ResponsePart.headerEntries <+:
        (allHeaders acts).entries ∧
      (reply encode (opening? acts) (passed acts)).flatMap ResponsePart.trailerEntries <:+:
        (allTrailers acts).entries := by
  obtain ⟨messages, ending, split, all, last⟩ := speech
  obtain ⟨noHeaders, noTrailers⟩ := all.entries encode
  cases opening : opening? acts with
  | none => exact ⟨List.nil_prefix, List.nil_infix⟩
  | some staged =>
    have first : staged.entries <+: (allHeaders acts).entries := record.headers opening
    unfold reply
    rw [Option.elim_some, split, List.filterMap_append, List.flatMap_cons, List.flatMap_cons,
      List.flatMap_append, List.flatMap_append, noHeaders, noTrailers]
    rcases last with rfl | ⟨status, trailers, rfl⟩
    · exact ⟨by simpa [ResponsePart.headerEntries] using first, List.nil_infix⟩
    · have among : .passes (.finish status trailers) ∈ acts := by
        have mem : .finish status trailers ∈ passed acts := by
          rw [split]
          exact List.mem_append_right _ (List.mem_singleton.mpr rfl)
        obtain ⟨act, mem, passes⟩ := List.mem_filterMap.mp mem
        cases act with
        | passes part =>
          cases passes
          exact mem
        | _ => cases passes
      refine ⟨?_, ?_⟩
      · simpa [ResponsePart.headerEntries, ResponsePart.tryMap, Except.toOption] using first
      · simpa [ResponsePart.trailerEntries, ResponsePart.tryMap, Except.toOption] using
          record.trailers among

end Act

namespace Overlap

/-- What the overlapping operations of a call reply. -/
structure Replies (method : Method σ P Req Resp) (path : String) (shared : σ)
    (turns : List (Crowd.Turn (Event σ P Req Resp))) : Prop where
  /-- Once no emission is under way, the transport has the headers that were taken and all that has
  passed the gate and has an encoding, in this order; -/
  parts : (run method path shared turns).state.emitting = false →
    (run method path shared turns).state.parts =
      Act.reply method.responses.encode (Act.opening? (run method path shared turns).state.acts)
        (Act.passed (run method path shared turns).state.acts)
  /-- and before that what comes first of it. -/
  first : (run method path shared turns).state.parts <+:
    Act.reply method.responses.encode (Act.opening? (run method path shared turns).state.acts)
      (Act.passed (run method path shared turns).state.acts)
  /-- Behind an end nothing passes. -/
  speech : Act.IsSpeech (Act.passed (run method path shared turns).state.acts)
  /-- What has passed, an operation has written or ended the call with, and what was staged is as it
  should be. -/
  founded : (run method path shared turns).state.Founded method (run method path shared turns).ops
  /-- What the transport gets of the staged headers are the first of them, each of them once. -/
  headers : (run method path shared turns).state.parts.flatMap ResponsePart.headerEntries <+:
    (Act.allHeaders (run method path shared turns).state.acts).entries
  trailers : (run method path shared turns).state.parts.flatMap ResponsePart.trailerEntries <:+:
    (Act.allTrailers (run method path shared turns).state.acts).entries

theorem replies_overlap {method : Method σ P Req Resp} (plain : method.chain = .empty)
    (path : String) (shared : σ) (turns : List (Crowd.Turn (Event σ P Req Resp))) :
    Replies method path shared turns := by
  have guarded := guarded_replying plain path shared turns
  have founded := founded_run plain path shared turns
  have speech := guarded.fair.speech
  obtain ⟨more, split⟩ : _ <+: Act.reply method.responses.encode
      (Act.opening? (run method path shared turns).state.acts)
      (Act.passed (run method path shared turns).state.acts) := guarded.fair.parts
  have entries := founded.record.entries_reply speech method.responses.encode
  rw [← split, List.flatMap_append, List.flatMap_append] at entries
  refine ⟨fun free => ?_, ⟨more, split⟩, speech, founded,
    (List.prefix_append _ _).trans entries.1, (List.prefix_append _ _).isInfix.trans entries.2⟩
  obtain ⟨holder, heldBy⟩ := guarded
  exact (heldBy.rests (heldBy.nobody free)).parts

end Overlap

/-- What a call without interceptors hands to its transport is the reply to what is done to it,
whoever its handler is: if the operations come one after the other, and also if they overlap. The
messages are in the order in which their writes begin. -/
theorem replies_in_order (method : Method σ P Req Resp) (plain : method.chain = .empty)
    (path : String) (shared : σ) :
    (∀ (handler : Handler σ Req Resp S) (compression : Bool) (moves : List (Move σ P Req Resp)),
      (Serving.fresh method handler compression path shared).Replies moves) ∧
    ∀ turns : List (Crowd.Turn (Event σ P Req Resp)), Overlap.Replies method path shared turns :=
  ⟨fun handler compression =>
      Serving.replies_run method plain handler compression path shared,
    Overlap.replies_overlap plain path shared⟩

namespace Stager

def method : Method Unit String String String where
  shape := .serverStreaming
  requests := .verbatim
  responses := .verbatim

/-- Stages a header before its only message, and a header and a trailer behind it. -/
def handler : Handler Unit String String Nat where
  start _ _ := 0
  wish
    | 0 => .stageHeader "x-early" "1" 1
    | 1 => .write "one" .deferred fun _ => 2
    | 2 => .stageHeader "x-late" "2" 3
    | 3 => .stageTrailer "x-end" "3" 4
    | _ => .finish (.ok none)

def served : Serving Unit String String String Nat :=
  .fresh method handler false "/echo.Echo/List" ()

def request : List (Move Unit String String String) :=
  [.receive (.headers .empty), .receive (.message "go" {}), .receive .finish]

/-- The request arrives, and the handler runs to its end. -/
def moves : List (Move Unit String String String) :=
  request ++ List.replicate 7 (.task 0 fun _ => .settled (.ok ()))

def write : Event Unit String String String := .write false "one" .deferred

/-- The same on several threads: while the message is on its way behind the gate, the late header
and the trailer are staged, and the call is to be ended. -/
def turns : List (Crowd.Turn (Event Unit String String String)) :=
  [.begin (.use (.stageHeader "x-early" "1")), .go 0, .begin write, .go 1, .go 1, .go 1, .go 1,
    .go 1, .begin (.use (.stageHeader "x-late" "2")), .go 2,
    .begin (.use (.stageTrailer "x-end" "3")), .go 3, .begin (.finish (.ok ())), .go 4, .go 4] ++
    List.replicate 8 (.go 1) ++ List.replicate 10 (.go 4)

def run : Overlap Unit String String String := .run method "/echo.Echo/List" () turns

/-- The header that was staged late is not sent. -/
theorem late_header_stays :
    method.chain = .empty ∧ served.Replies moves ∧
    served.deeds moves =
      [.header "x-early" "1", .message "one" (.compressed false), .header "x-late" "2",
        .trailer "x-end" "3", .finish (.returned (.ok ()))] ∧
    served.outputs moves =
      [.headers (.ofList [("x-early", "1")]), .message "one" (.compressed false),
        .finish .success (.ofList [("x-end", "3")])] ∧
    Overlap.Replies method "/echo.Echo/List" () turns ∧ run.state.emitting = false ∧
    run.state.parts = served.outputs moves := by
  have replies := replies_in_order (S := Nat) method rfl "/echo.Echo/List" ()
  have deeds : served.deeds moves =
    [.header "x-early" "1", .message "one" (.compressed false), .header "x-late" "2",
      .trailer "x-end" "3", .finish (.returned (.ok ()))] := rfl
  have parts := (replies.1 handler false moves).parts.trans (congrArg _ deeds)
  have free : run.state.emitting = false := rfl
  exact ⟨rfl, replies.1 handler false moves, deeds, parts, replies.2 turns, free,
    ((replies.2 turns).parts free).trans parts.symm⟩

/-- Leaves its writer to others, and waits. -/
def lender : Handler Unit String String Bool where
  start _ _ := false
  wish
    | false => .lend true
    | true => .awaitCancelled true

def lent : Serving Unit String String String Bool :=
  .fresh method lender false "/echo.Echo/List" ()

/-- The message that somebody calls to write, under a name, without polling what the call gives. -/
def calling (id message : String) : Move Unit String String String :=
  .engage { id := some id, begun := false, job := .write message .deferred }

def begins (id : String) : List (Move Unit String String String) :=
  [.poll id, .errand fun _ => .waiting]

/-- Of two writes the second one is polled first. -/
def crossedWrites : List (Move Unit String String String) :=
  request ++ List.replicate 3 (.task 0 fun _ => .waiting) ++
    [calling "first" "a", calling "second" "b"] ++ begins "second" ++ begins "first"

/-- A write that is called first and polled later is sent later: the order of the calls is not the
order of the messages. -/
theorem later_write_overtakes :
    method.chain = .empty ∧
    crossedWrites.filterMap (fun
      | .engage ⟨_, _, .write message _⟩ => some message
      | _ => none) = ["a", "b"] ∧
    lent.outputs crossedWrites =
      [.headers .empty, .message "b" (.compressed false),
        .message "a" (.compressed false)] :=
  ⟨rfl, rfl, rfl⟩

/-- A method whose messages cannot all be decoded. -/
def strict : Method Unit (Option String) String String where
  shape := .bidirectional
  requests := .optional
  responses := .optional

/-- The handler has staged a trailer and returns, and takes the trailers. Before it comes to the
gate, a part arrives that cannot be decoded. -/
def race : List (Crowd.Turn (Event Unit (Option String) String String)) :=
  .begin (.receive (.headers .empty)) :: List.replicate 3 (.go 0) ++
    [.begin (.use (.stageTrailer "x-end" "3")), .go 1, .begin (.finish (.ok ())), .go 2,
      .begin (.receive (.message none {}))] ++ List.replicate 16 (.go 3) ++
    List.replicate 3 (.go 2)

/-- The end is that of the part, and the trailers are lost with the one that came too late. -/
theorem trailers_taken_in_vain :
    (Overlap.run strict "/echo.Echo/Chat" () race).state.parts =
      [.headers .empty, .finish (CallError.codec "no text").toStatus .empty] ∧
    Act.allTrailers (Overlap.run strict "/echo.Echo/Chat" () race).state.acts =
      .ofList [("x-end", "3")] ∧
    (Overlap.run strict "/echo.Echo/Chat" () race).Returned (.finish (.ok ())) .nothing :=
  ⟨rfl, rfl, List.mem_of_getElem? (i := 2) rfl⟩

end Stager

end RemoteCall.Server
