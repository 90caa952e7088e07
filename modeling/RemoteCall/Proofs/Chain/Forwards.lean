import RemoteCall.Interceptor

/-!
# Chains that forward

A hook forwards a part if it sends it, once, and does nothing else but to look at what is shared and
to change it. What the application sends through a chain of such hooks is handed to the transport
once and as it is, whatever the hooks note on the way (`Chain.Forwards.send`).
-/

namespace RemoteCall

variable {σ Out In W : Type}

namespace Hook

/-- The hook sends and passes nothing. -/
def IsSilent : Hook σ Out In → Prop
  | done => True
  | send _ _ => False
  | receive _ _ => False
  | fail _ _ => False
  | note _ rest => rest.IsSilent
  | look rest => ∀ shared, (rest shared).IsSilent

/-- The hook sends this part, and otherwise only takes notes. -/
def Forwards (part : Out) : Hook σ Out In → Prop
  | done => False
  | send sent rest => sent = part ∧ rest.IsSilent
  | receive _ _ => False
  | fail _ _ => False
  | note _ rest => rest.Forwards part
  | look rest => ∀ shared, (rest shared).Forwards part

end Hook

/-- Every hook forwards what the application sends. -/
def Chain.Forwards (chain : Chain σ Out In) : Prop :=
  ∀ i ∈ chain.interceptors, ∀ site part, (i.outbound site part).Forwards part

/-- One state becomes another one by notes. -/
inductive Edges.Noted (edges : Edges σ Out In W) : W → W → Prop where
  | refl (w : W) : Noted edges w w
  | note {w w' : W} (update : σ → σ) (later : Noted edges (edges.note update w) w') :
      Noted edges w w'

variable {edges : Edges σ Out In W}

theorem Edges.Noted.trans {w w' w'' : W} (first : edges.Noted w w') (later : edges.Noted w' w'') :
    edges.Noted w w'' := by
  induction first with
  | refl w => exact later
  | note update rest ih => exact .note update (ih later)

/-- One state becomes another one when a part is handed to the transport, with notes before and
behind that. -/
def Edges.Hands (edges : Edges σ Out In W) (part : Out) (w w' : W) : Prop :=
  ∃ before, edges.Noted w before ∧ edges.Noted (edges.transport part before) w'

theorem Hook.IsSilent.run {below : Out → W → W} {above : Arrival In → W → W}
    {hook : Hook σ Out In} (silent : hook.IsSilent) (w : W) :
    edges.Noted w (hook.run edges below above w) := by
  induction hook generalizing w with
  | done => exact .refl w
  | send part rest ih => exact silent.elim
  | receive part rest ih => exact silent.elim
  | fail e rest ih => exact silent.elim
  | note update rest ih => exact .note update (ih silent (edges.note update w))
  | look rest ih => exact ih (edges.shared w) (silent (edges.shared w)) w

theorem Hook.Forwards.run {below : Out → W → W} {above : Arrival In → W → W}
    {hook : Hook σ Out In} {part : Out} (forwards : hook.Forwards part)
    (hands : ∀ w, edges.Hands part w (below part w)) (w : W) :
    edges.Hands part w (hook.run edges below above w) := by
  induction hook generalizing w with
  | done => exact forwards.elim
  | receive part rest ih => exact forwards.elim
  | fail e rest ih => exact forwards.elim
  | look rest ih => exact ih (edges.shared w) (forwards (edges.shared w)) w
  | note update rest ih =>
    obtain ⟨before, noted, later⟩ := ih forwards (edges.note update w)
    exact ⟨before, .note update noted, later⟩
  | send sent rest ih =>
    obtain ⟨rfl, silent⟩ := forwards
    obtain ⟨before, noted, later⟩ := hands w
    exact ⟨before, noted, later.trans (silent.run (below sent w))⟩

namespace Chain

/-- A chain that forwards hands a part over. The induction is on the interceptors below. -/
theorem Forwards.send {chain : Chain σ Out In} (forwards : chain.Forwards) (path : String)
    (part : Out) (w : W) : edges.Hands part w (chain.send edges path part w) := by
  have outwards : ∀ (below above : List (Interceptor σ Out In)) (w : W),
      (∀ i ∈ below, ∀ site, (i.outbound site part).Forwards part) →
        edges.Hands part w
          (outward edges path (answer edges path chain.turns) below above part w) := by
    intro below
    induction below with
    | nil => exact fun above w _ => ⟨w, .refl w, .refl _⟩
    | cons i below ih =>
      intro above w all
      obtain ⟨first, later⟩ := List.forall_mem_cons.mp all
      exact (first ⟨below.length, path⟩).run (fun w => ih (i :: above) w later) w
  exact outwards chain.interceptors.reverse [] w fun i member site =>
    forwards i (List.mem_reverse.mp member) site part

theorem forwards_empty : (empty : Chain σ Out In).Forwards := fun _ member =>
  absurd member List.not_mem_nil

end Chain

end RemoteCall
