import RemoteCall.Proofs.Line.Sending

/-!
# A link loses nothing

What the server's side says is shown to the client in this order, until an end is shown or nothing
more can come (`Line.Course`). Together with the way to the server that is kept by every act, so a
line carries everything, whatever its users do and however the pumps take turns
(`Line.lossless`).
-/

namespace RemoteCall.Line

variable {P : Type}

/-- How the way to the client stands after a trace. -/
inductive Course (trace : List (Sight P)) (l : Line P) : Prop where
  | idle (fresh : phase trace = .fresh) (pump : l.link.delivering = .idle)
      (hand : l.delivering = none) (silent : Line.heard trace = [])
      (queued : said trace = l.link.toClient.map Prod.fst)
  | running (parts : List (ResponsePart P)) (pump : l.link.delivering = .running)
      (hand : ∀ part ticket, l.delivering = some (part, ticket) → part.isFinish = false)
      (plain : ∀ part ∈ parts, part.isFinish = false) (heard : Line.heard trace = parts.map .shown)
      (queued : said trace = parts ++ l.link.toClient.map Prod.fst)
  /-- The client has been shown the end and not accepted it. -/
  | ending (body : List (ResponsePart P)) (last : ResponsePart P)
      (pump : l.link.delivering = .running) (hand : ∃ ticket, l.delivering = some (last, ticket))
      (finish : last.isFinish = true) (plain : ∀ part ∈ body, part.isFinish = false)
      (heard : Line.heard trace = body.map .shown ++ [.shown last])
      (sent : body ++ [last] <+: said trace)
  | finished (body : List (ResponsePart P)) (last : ResponsePart P)
      (pump : l.link.delivering = .stopped) (hand : l.delivering = none)
      (finish : last.isFinish = true) (plain : ∀ part ∈ body, part.isFinish = false)
      (heard : Line.heard trace = body.map .shown ++ [.shown last])
      (sent : body ++ [last] <+: said trace)
  | failed (before after : List (Sight P)) (whole : trace = before ++ .failed :: after)
      (pump : l.link.delivering = .stopped) (hand : l.delivering = none)
      (plain : ∀ part ∈ said before, part.isFinish = false)
      (heard : Line.heard trace = (said before).map .shown ++ [.failed])

namespace Course

variable {trace : List (Sight P)} {l l' : Line P}

theorem start (routed : Bool) : (fresh routed : Line P).Course [] := .idle rfl rfl rfl rfl rfl

/-- What happens away from the way to the client. -/
theorem of_same (course : l.Course trace) (pump : l'.link.delivering = l.link.delivering)
    (queue : l'.link.toClient = l.link.toClient) (hand : l'.delivering = l.delivering) :
    l'.Course trace := by
  cases course with
  | idle fresh idle none nothing queued =>
    exact .idle fresh (pump.trans idle) (hand.trans none) nothing (queue ▸ queued)
  | running parts running more plain shown queued =>
    exact .running parts (pump.trans running) (hand ▸ more) plain shown (queue ▸ queued)
  | ending body last running last' finish plain shown sent =>
    exact .ending body last (pump.trans running) (hand ▸ last') finish plain shown sent
  | finished body last stopped none finish plain shown sent =>
    exact .finished body last (pump.trans stopped) (hand.trans none) finish plain shown sent
  | failed before after whole stopped none plain shown =>
    exact .failed before after whole (pump.trans stopped) (hand.trans none) plain shown

theorem see (course : l.Course trace) {sights : List (Sight P)} (quiet : heard sights = [])
    (silent : said sights = []) (calm : sights.foldl Phase.next .fresh = .fresh)
    (pump : l'.link.delivering = l.link.delivering)
    (queue : l'.link.toClient = l.link.toClient) (hand : l'.delivering = l.delivering) :
    l'.Course (trace ++ sights) := by
  have same : l'.Course trace := course.of_same pump queue hand
  have heard : Line.heard (trace ++ sights) = Line.heard trace := by
    rw [heard_append, quiet, List.append_nil]
  have said : Line.said (trace ++ sights) = Line.said trace := by
    rw [said_append, silent, List.append_nil]
  cases same with
  | idle fresh idle none nothing queued =>
    exact .idle (by rw [phase_append, fresh, calm]) idle none (heard.trans nothing)
      (said.trans queued)
  | running parts running more plain shown queued =>
    exact .running parts running more plain (heard.trans shown) (said.trans queued)
  | ending body last running last' finish plain shown sent =>
    exact .ending body last running last' finish plain (heard.trans shown) (said ▸ sent)
  | finished body last stopped none finish plain shown sent =>
    exact .finished body last stopped none finish plain (heard.trans shown) (said ▸ sent)
  | failed before after whole stopped none plain shown =>
    exact .failed before (after ++ sights) (by rw [whole, List.append_assoc, List.cons_append])
      stopped none plain (heard.trans shown)

theorem take (course : l.Course trace) {item : ToServer P} {link : Link P}
    (pump : link.delivering = l.link.delivering) (queue : link.toClient = l.link.toClient) :
    (l.take item link).1.Course (trace ++ (l.take item link).2) := by
  unfold Line.take
  refine course.see ?_ ?_ ?_ pump queue rfl <;> cases l.routed <;> rfl

/-- A part is queued, or dropped where nobody waits for it. -/
theorem respond (course : l.Course trace) (part : ResponsePart P) :
    ({ l with link := l.link.respond part } : Line P).Course (trace ++ [.said part]) := by
  have heard : Line.heard (trace ++ [.said part]) = Line.heard trace := by
    rw [heard_append]
    exact List.append_nil _
  have said : Line.said (trace ++ [.said part]) = Line.said trace ++ [part] := by
    rw [said_append]
    rfl
  unfold Link.respond
  split
  · next gone =>
    cases course with
    | finished body last stopped none finish plain shown sent =>
      exact .finished body last stopped none finish plain (heard.trans shown)
        (said ▸ sent.trans (List.prefix_append ..))
    | failed before after whole stopped none plain shown =>
      exact .failed before (after ++ [.said part])
        (by rw [whole, List.append_assoc, List.cons_append]) stopped none plain (heard.trans shown)
    | idle _ pump | running _ pump | ending _ _ pump => simp [pump] at gone
  · next there =>
    cases course with
    | idle fresh idle none nothing queued =>
      exact .idle (by rw [phase_append, fresh]; rfl) idle none (heard.trans nothing)
        (by simp [said, queued])
    | running parts running more plain shown queued =>
      exact .running parts running more plain (heard.trans shown) (by simp [said, queued])
    | ending body last running last' finish plain shown sent =>
      exact .ending body last running last' finish plain (heard.trans shown)
        (said ▸ sent.trans (List.prefix_append ..))
    | finished _ _ pump | failed _ _ _ pump => simp [pump] at there

/-- The client is shown what is next, or told that there is nothing to come. -/
theorem deliver (course : l.Course trace) : l.deliver.1.Course (trace ++ l.deliver.2) := by
  unfold Line.deliver
  split
  · next part ticket link hand step =>
    cases Link.delivers_of_deliver? step with
    | @part _ _ rest pump next =>
      cases course with
      | running parts _ _ plain shown queued =>
        have heard : heard (trace ++ [.shown part]) = parts.map .shown ++ [.shown part] := by
          rw [heard_append, shown]
          rfl
        have said : said (trace ++ [.shown part]) = parts ++ part :: rest.map Prod.fst := by
          rw [said_append, queued, next]
          exact List.append_nil _
        cases finish : part.isFinish with
        | true =>
          refine .ending parts part pump ⟨ticket, rfl⟩ finish plain heard ⟨rest.map Prod.fst, ?_⟩
          rw [said, List.append_assoc]
          rfl
        | false =>
          refine .running (parts ++ [part]) pump ?_ ?_ ?_ ?_
          · rintro _ _ ⟨⟩
            exact finish
          · simpa [or_imp, forall_and] using ⟨plain, finish⟩
          · rw [heard, List.map_append]
            rfl
          · rw [said, List.append_assoc]
            rfl
      | ending body last running last' => simp [hand] at last'
      | idle _ other | finished _ _ other | failed _ _ _ other => simp [pump] at other
  · next link hand step =>
    cases Link.delivers_of_deliver? step with
    | error pump drained gone =>
      cases course with
      | running parts _ _ plain shown queued =>
        have all : said trace = parts := by simpa [drained] using queued
        refine .failed trace [] rfl ?_ ?_ (all ▸ plain) ?_
        · unfold letGo
          split <;> rfl
        · unfold letGo
          split <;> exact hand
        · rw [heard_append, shown, all]
          rfl
      | ending body last running last' => simp [hand] at last'
      | idle _ other | finished _ _ other | failed _ _ _ other => simp [pump] at other
  · rwa [List.append_nil]

theorem delivered (course : l.Course trace) :
    l.delivered.1.Course (trace ++ l.delivered.2) := by
  unfold Line.delivered Link.acceptResponse
  split
  · next part ticket hand =>
    cases course with
    | running parts pump more plain shown queued =>
      rw [more part ticket hand, if_neg (by simp), if_neg (by simp), List.append_nil]
      exact .running parts pump nofun plain shown queued
    | ending body last pump last' finish plain shown sent =>
      obtain ⟨_, same⟩ := last'
      cases hand.symm.trans same
      rw [finish, if_pos rfl, if_pos rfl]
      refine .finished body part rfl rfl finish plain ?_ ?_
      · rw [heard_append, shown]
        exact List.append_nil _
      · rw [said_append]
        exact sent.trans (List.prefix_append ..)
    | idle _ _ other | finished _ _ _ other | failed _ _ _ _ other => simp [hand] at other
  · rwa [List.append_nil]

theorem invoke (course : l.Course trace) (first : l.link.invoked = false)
    (idle : l.link.delivering = .idle) :
    ({ l with link := l.link.invoke.2 } : Line P).Course (trace ++ [.invoked]) := by
  unfold Link.invoke
  rw [first, if_neg (by simp)]
  cases course with
  | idle _ _ hand silent queued =>
    refine .running [] rfl (by simp [hand]) nofun ?_ ?_
    · rw [heard_append, silent]
      rfl
    · rw [said_append, queued]
      exact List.append_nil _
  | running _ pump | ending _ _ pump | finished _ _ pump | failed _ _ _ pump => simp [idle] at pump

theorem serve (course : l.Course trace) : l.serve.1.Course (trace ++ l.serve.2) := by
  unfold Line.serve
  split
  · next step =>
    cases Link.serves_of_serve? step
    have started : ({ l with link := { l.link with serving := .running } } : Line P).Course trace :=
      course.of_same rfl rfl rfl
    split
    · refine course.see ?_ ?_ ?_ ?_ ?_ ?_ <;> rfl
    · exact (started.respond (Server.notFound P)).of_same rfl rfl rfl
  · next step =>
    cases Link.serves_of_serve? step
    exact course.take rfl rfl
  · next step =>
    cases Link.serves_of_serve? step
    exact course.take rfl rfl
  · next step =>
    cases Link.serves_of_serve? step
    refine course.see ?_ ?_ ?_ ?_ ?_ ?_ <;> rfl
  · rwa [List.append_nil]

theorem served (course : l.Course trace) : l.served.Course trace := by
  unfold Line.served
  split
  · exact course.of_same rfl rfl rfl
  · exact course.of_same rfl rfl rfl
  · exact course

/-! ### What the course tells -/

theorem hand_of_idle (course : l.Course trace) (idle : l.link.delivering = .idle) :
    l.delivering = none := by
  cases course with
  | idle _ _ hand => exact hand
  | running _ pump | ending _ _ pump | finished _ _ pump | failed _ _ _ pump => simp [idle] at pump

theorem shown_eq (trace : List (Sight P)) :
    shown trace = (Line.heard trace).filterMap Sight.shown? := by
  unfold shown Line.heard
  rw [List.filterMap_filter]
  congr 1
  funext sight
  cases sight <;> rfl

/-- What the client has been shown, read off what it has heard. -/
theorem shown_of_heard {body : List (ResponsePart P)} {last : List (Sight P)}
    (heard : Line.heard trace = body.map .shown ++ last) :
    shown trace = body ++ last.filterMap Sight.shown? := by
  rw [shown_eq, heard, List.filterMap_append, List.filterMap_map]
  congr 1
  exact List.filterMap_some

theorem shown_prefix (course : l.Course trace) : shown trace <+: said trace := by
  cases course with
  | idle _ _ _ silent =>
    rw [shown_eq, silent]
    exact List.nil_prefix
  | running parts _ _ _ heard queued =>
    rw [shown_of_heard (heard.trans (List.append_nil _).symm), queued]
    exact List.prefix_append_right_inj .. |>.mpr List.nil_prefix
  | ending body last _ _ _ _ heard sent | finished body last _ _ _ _ heard sent =>
    rw [shown_of_heard heard]
    exact sent
  | failed before after whole _ _ _ heard =>
    rw [shown_of_heard heard, whole, said_append]
    exact List.prefix_append_right_inj .. |>.mpr List.nil_prefix

theorem heard_form (course : l.Course trace) :
    ∃ (body : List (ResponsePart P)) (last : List (Sight P)),
      Line.heard trace = body.map .shown ++ last ∧ (∀ part ∈ body, part.isFinish = false) ∧
      (last = [] ∨ (∃ part, part.isFinish = true ∧ last = [.shown part]) ∨ last = [.failed]) := by
  cases course with
  | idle _ _ _ silent => exact ⟨[], [], silent, nofun, .inl rfl⟩
  | running parts _ _ plain heard _ =>
    exact ⟨parts, [], heard.trans (List.append_nil _).symm, plain, .inl rfl⟩
  | ending body last _ _ finish plain heard | finished body last _ _ finish plain heard =>
    exact ⟨body, _, heard, plain, .inr (.inl ⟨last, finish, rfl⟩)⟩
  | failed before _ _ _ _ plain heard => exact ⟨said before, _, heard, plain, .inr (.inr rfl)⟩

/-- A pump that rests has shown the client everything, or has been done before. -/
theorem delivered_of_rests (course : l.Course trace) (begun : phase trace ≠ .fresh)
    (rests : l.DeliveringRests) :
    (∃ part ∈ shown trace, part.isFinish = true) ∨ .failed ∈ trace ∨ shown trace = said trace := by
  obtain ⟨free, still⟩ := rests
  cases course with
  | idle fresh => exact absurd fresh begun
  | running parts pump _ _ heard queued =>
    have drained : l.link.toClient = [] := by
      cases queue : l.link.toClient with
      | nil => rfl
      | cons entry rest => simp [Link.deliver?, pump, queue] at still
    refine .inr (.inr ?_)
    rw [shown_of_heard (heard.trans (List.append_nil _).symm), queued, drained]
    rfl
  | ending _ _ _ hand => simp [free] at hand
  | finished body last _ _ finish _ heard =>
    refine .inl ⟨last, ?_, finish⟩
    rw [shown_of_heard heard]
    exact List.mem_append_right _ (List.mem_singleton.mpr rfl)
  | failed before after whole =>
    exact .inr (.inl (whole ▸ List.mem_append_right _ List.mem_cons_self))

theorem failed_split (course : l.Course trace) (failed : .failed ∈ trace) :
    ∃ before after, trace = before ++ .failed :: after ∧ shown trace = said before := by
  have heard : .failed ∈ Line.heard trace := List.mem_filter.mpr ⟨failed, rfl⟩
  cases course with
  | idle _ _ _ silent => simp [silent] at heard
  | running _ _ _ _ all => simp [all] at heard
  | ending _ _ _ _ _ _ all | finished _ _ _ _ _ _ all => simp [all] at heard
  | failed before after whole _ _ _ all =>
    refine ⟨before, after, whole, ?_⟩
    rw [shown_of_heard all]
    exact List.append_nil _

end Course

/-- What an act does to the delivering pump. -/
inductive Turns (l l' : Line P) : Prop where
  | same (invoked : l'.link.invoked = l.link.invoked)
      (pump : l'.link.delivering = l.link.delivering)
  | begins (first : l.link.invoked = false) (invoked : l'.link.invoked = true)
  | ends (invoked : l'.link.invoked = l.link.invoked)
      (busy : l.link.delivering = .running ∨ l.delivering.isSome = true)
      (pump : l'.link.delivering = .stopped)

theorem turns_serve (l : Line P) : l.Turns l.serve.1 := by
  unfold serve
  split
  · next step =>
    cases Link.serves_of_serve? step
    split
    · exact .same rfl rfl
    · unfold Link.respond
      split <;> exact .same rfl rfl
  · next step => cases Link.serves_of_serve? step; exact .same rfl rfl
  · next step => cases Link.serves_of_serve? step; exact .same rfl rfl
  · next step => cases Link.serves_of_serve? step; exact .same rfl rfl
  · exact .same rfl rfl

theorem turns_deliver (l : Line P) : l.Turns l.deliver.1 := by
  unfold deliver
  split
  · next step => cases Link.delivers_of_deliver? step; exact .same rfl rfl
  · next step =>
    cases Link.delivers_of_deliver? step with
    | error running =>
      unfold letGo
      split <;> exact .ends rfl (.inl running) rfl
  · exact .same rfl rfl

theorem turns_delivered (l : Line P) : l.Turns l.delivered.1 := by
  unfold delivered Link.acceptResponse
  split
  · next part ticket hand =>
    cases part.isFinish with
    | true => exact .ends rfl (.inr (by rw [hand]; rfl)) rfl
    | false => exact .same rfl rfl
  · exact .same rfl rfl

theorem turns_perform (l : Line P) (act : Act P) : l.Turns (l.perform act).1 := by
  cases act with
  | invoke =>
    unfold perform Link.invoke
    dsimp only
    split
    · next first =>
      have first : l.link.invoked = false := by simp_all
      rw [first]
      exact .begins first rfl
    · exact .same rfl rfl
  | send part =>
    unfold perform Link.send
    dsimp only
    split
    · split <;> exact .same rfl rfl
    · exact .same rfl rfl
  | cancel =>
    unfold perform Link.cancel
    dsimp only
    split
    · split <;> exact .same rfl rfl
    · exact .same rfl rfl
  | drop =>
    unfold perform letGo
    dsimp only
    split <;> exact .same rfl rfl
  | respond part =>
    unfold perform Link.respond
    dsimp only
    split <;> exact .same rfl rfl
  | leave => exact .same rfl rfl
  | serve => exact turns_serve l
  | served =>
    unfold perform served
    dsimp only
    split <;> exact .same rfl rfl
  | deliver => exact turns_deliver l
  | delivered => exact turns_delivered l

/-- A pump that has stopped does not start again. -/
theorem Turns.stopped {l l' : Line P} (turns : l.Turns l') (invoked : l.link.invoked = true)
    (stopped : l.link.delivering = .stopped) : l'.link.delivering = .stopped := by
  cases turns with
  | same _ pump => exact pump.trans stopped
  | begins first => exact absurd (first.symm.trans invoked) Bool.false_ne_true
  | ends _ _ pump => exact pump

/-- The pump stops at the end. -/
theorem stopped_of_ended {l : Line P} {act : Act P} (ended : .ended ∈ (l.perform act).2) :
    (l.perform act).1.link.delivering = .stopped := by
  cases act with
  | serve => grind [perform, serve, take]
  | deliver => grind [perform, deliver]
  | delivered => grind [perform, delivered, Link.acceptResponse, Link.stopDelivering]
  | _ => grind [perform]

/-- What holds of a line after any acts. -/
structure Holds (trace : List (Sight P)) (l : Line P) : Prop where
  sends : l.Sends (outward trace)
  course : l.Course trace
  idle : l.link.invoked = false → l.link.delivering = .idle
  ended : .ended ∈ trace → l.link.delivering = .stopped

namespace Holds

variable {trace : List (Sight P)} {l : Line P}

theorem start (routed : Bool) : (fresh routed : Line P).Holds [] where
  sends := .start routed
  course := .start routed
  idle _ := rfl
  ended := nofun

theorem course_perform (holds : l.Holds trace) (act : Act P) :
    (l.perform act).1.Course (trace ++ (l.perform act).2) := by
  have same : l.Course (trace ++ []) := holds.course.see rfl rfl rfl rfl rfl rfl
  cases act with
  | invoke =>
    unfold perform
    dsimp only
    split
    · next first =>
      have first : l.link.invoked = false := by simp_all
      exact holds.course.invoke first (holds.idle first)
    · exact same
  | send part =>
    unfold perform Link.send
    dsimp only
    split
    · split <;> refine holds.course.see ?_ ?_ ?_ ?_ ?_ ?_ <;> rfl
    · exact same
  | cancel =>
    unfold perform Link.cancel
    dsimp only
    split
    · split <;> refine holds.course.see ?_ ?_ ?_ ?_ ?_ ?_ <;> rfl
    · exact same
  | drop =>
    unfold perform letGo
    dsimp only
    split <;> exact same.of_same rfl rfl rfl
  | respond part => exact holds.course.respond part
  | leave => exact same.of_same rfl rfl rfl
  | serve => exact holds.course.serve
  | served =>
    have served := holds.course.served
    rwa [← List.append_nil trace] at served
  | deliver => exact holds.course.deliver
  | delivered => exact holds.course.delivered

/-- Nothing but an invocation starts the delivering pump, and only a started one stops. -/
theorem idle_perform (holds : l.Holds trace) (act : Act P)
    (first : (l.perform act).1.link.invoked = false) :
    (l.perform act).1.link.delivering = .idle := by
  cases turns_perform l act with
  | same invoked pump => exact pump.trans (holds.idle (invoked ▸ first))
  | begins _ invoked => exact absurd (first.symm.trans invoked) Bool.false_ne_true
  | ends invoked busy =>
    have idle := holds.idle (invoked ▸ first)
    simp [idle, holds.course.hand_of_idle idle] at busy

theorem ended_perform (holds : l.Holds trace) (act : Act P)
    (ended : .ended ∈ trace ++ (l.perform act).2) :
    (l.perform act).1.link.delivering = .stopped := by
  rcases List.mem_append.mp ended with earlier | now
  · have stopped := holds.ended earlier
    have invoked : l.link.invoked = true := by
      cases first : l.link.invoked with
      | true => rfl
      | false => cases (holds.idle first).symm.trans stopped
    exact (turns_perform l act).stopped invoked stopped
  · exact stopped_of_ended now

theorem perform (holds : l.Holds trace) (act : Act P) :
    (l.perform act).1.Holds (trace ++ (l.perform act).2) where
  sends := by
    rw [outward_append]
    exact holds.sends.perform act
  course := holds.course_perform act
  idle := holds.idle_perform act
  ended := holds.ended_perform act

theorem run (holds : l.Holds trace) (acts : List (Act P)) :
    (l.run acts).Holds (trace ++ l.trace acts) := by
  induction acts generalizing l trace with
  | nil =>
    rw [Line.trace, List.append_nil]
    exact holds
  | cons act rest ih =>
    rw [Line.trace, ← List.append_assoc]
    exact ih (holds.perform act)

theorem of_fresh (routed : Bool) (acts : List (Act P)) :
    ((fresh routed).run acts).Holds ((fresh routed).trace acts) :=
  (Holds.start routed).run acts

theorem carries (holds : l.Holds trace) : l.Carries trace := by
  obtain ⟨sends, course, -, -⟩ := holds
  have fifo : entered trace = taken trace ++ l.link.toServer := sends.fifo
  have untaken : ∀ ticket e, (ticket, e) ∈ refused trace →
      ∀ part, .part part ticket ∉ taken trace := by
    intro ticket e refused part taken
    have entered : .part part ticket ∈ entered trace := fifo ▸ List.mem_append_left _ taken
    exact (sends.counted part ticket entered).2 e (sends.refused ticket e refused)
  exact {
    entered := entered_form .fresh trace
    tickets := sends.tickets
    fifo := fifo ▸ List.prefix_append ..
    drained := fun rests => by rw [fifo, sends.drained rests, List.append_nil]
    handed := sends.handed
    accepted := sends.accepted
    refused := fun ticket e refused => ⟨sends.refused ticket e refused, untaken ticket e refused⟩
    shown := course.shown_prefix
    heard := course.heard_form
    delivered := course.delivered_of_rests
    failed := course.failed_split }

end Holds

end RemoteCall.Line
