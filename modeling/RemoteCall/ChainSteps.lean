import RemoteCall.Interceptor
import RemoteCall.Routine

/-!
# Chains step by step

A run through a chain holds no lock of its own: whatever the two edges and the hooks do to the
state are steps of a routine, and others may act on the state between any two of them. The
traversals here are those of `Chain.send` and `Chain.arrive` with routines at the edges. What the
edges have collected is the value of the whole run, in order.
-/

namespace RemoteCall

/-- The two ends of a chain as routines, and the state its hooks share. -/
structure EdgeRoutines (σ Out In W ρ : Type) where
  transport : Out → Routine W (List ρ)
  application : In → Routine W (List ρ)
  failure : CallError → Routine W (List ρ)
  shared : W → σ
  note : (σ → σ) → W → W

namespace EdgeRoutines

variable {σ Out In W ρ : Type}

/-- What happens to an arrival that made it through the chain. -/
def arrive (edges : EdgeRoutines σ Out In W ρ) : Arrival In → Routine W (List ρ)
  | .part part => edges.application part
  | .failure e => edges.failure e

end EdgeRoutines

namespace Hook

variable {σ Out In W ρ : Type}

/-- A hook step by step: each look at the shared state and each change of it is a step. -/
def steps (edges : EdgeRoutines σ Out In W ρ) (below : Out → Routine W (List ρ))
    (above : Arrival In → Routine W (List ρ)) : Hook σ Out In → Routine W (List ρ)
  | done => return []
  | send part rest => (below part).andThen (rest.steps edges below above)
  | receive part rest => (above (.part part)).andThen (rest.steps edges below above)
  | fail e rest => (above (.failure e)).andThen (rest.steps edges below above)
  | note update rest => do
    .act (edges.note update)
    rest.steps edges below above
  | look rest => do
    let shared ← .read edges.shared
    (rest shared).steps edges below above

end Hook

namespace Chain

variable {σ Out In W ρ : Type}

/-- `Chain.inward`, step by step. -/
def inwardSteps (edges : EdgeRoutines σ Out In W ρ) (path : String)
    (answer : (below above : List (Interceptor σ Out In)) → Out → Routine W (List ρ)) :
    (below above : List (Interceptor σ Out In)) → Arrival In → Routine W (List ρ)
  | _, [], arrival => edges.arrive arrival
  | below, i :: above, arrival =>
    (i.arrive ⟨below.length, path⟩ arrival).steps edges (answer below (i :: above))
      (inwardSteps edges path answer (i :: below) above)

/-- `Chain.outward`, step by step. -/
def outwardSteps (edges : EdgeRoutines σ Out In W ρ) (path : String)
    (answer : (below above : List (Interceptor σ Out In)) → Out → Routine W (List ρ)) :
    (below above : List (Interceptor σ Out In)) → Out → Routine W (List ρ)
  | [], _, part => edges.transport part
  | i :: below, above, part =>
    (i.outbound ⟨below.length, path⟩ part).steps edges
      (outwardSteps edges path answer below (i :: above))
      (inwardSteps edges path answer (i :: below) above)

/-- `Chain.answer`, step by step. -/
def answerSteps (edges : EdgeRoutines σ Out In W ρ) (path : String) :
    (turns : Nat) → (below above : List (Interceptor σ Out In)) → Out → Routine W (List ρ)
  | 0, _, _, _ => return []
  | turns + 1, below, above, part =>
    outwardSteps edges path (answerSteps edges path turns) below above part

/-- Runs a part of the application toward the transport. -/
def sendSteps (chain : Chain σ Out In) (edges : EdgeRoutines σ Out In W ρ) (path : String)
    (part : Out) : Routine W (List ρ) :=
  outwardSteps edges path (answerSteps edges path chain.turns) chain.interceptors.reverse [] part

/-- Runs an arrival from the transport toward the application. -/
def arriveSteps (chain : Chain σ Out In) (edges : EdgeRoutines σ Out In W ρ) (path : String)
    (arrival : Arrival In) : Routine W (List ρ) :=
  inwardSteps edges path (answerSteps edges path chain.turns) [] chain.interceptors arrival

end Chain

end RemoteCall
