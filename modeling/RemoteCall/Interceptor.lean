import RemoteCall.CallError

/-!
# Interceptor chains

A chain is a list of interceptors between the application and the transport; the first one stands
nearest the transport. Parts of type `Out` travel from the application to the transport, and
arrivals, which are parts of type `In` or failures, travel the other way. Each interceptor sees
what reaches it and answers with a `Hook`: a finite program of actions. It may pass things on,
change, multiply or drop them, and answer in either direction.

A chain is run against the two edges of a call, `Edges`, over any type `W` of states: the hooks
reach the state only through the edges and through the part `σ` that they share. So whatever both
edges keep, every chain keeps.

Going outward the recursion is on the interceptors below, going inward on those above. Only a
hook that sees an arrival and answers it toward the transport turns around; `turns` bounds how
deep such answers nest, and an answer beyond that is dropped. A chain without such hooks never
uses a turn.
-/

namespace RemoteCall

/-- What travels toward the application. -/
inductive Arrival (In : Type) where
  | part (part : In)
  | failure (e : CallError)

/-- What an interceptor does about one thing it sees. -/
inductive Hook (σ Out In : Type) where
  | done
  /-- Pass a part to the next stage toward the transport. -/
  | send (part : Out) (rest : Hook σ Out In)
  /-- Pass a part to the next stage toward the application. -/
  | receive (part : In) (rest : Hook σ Out In)
  /-- Pass a failure to the next stage toward the application. -/
  | fail (e : CallError) (rest : Hook σ Out In)
  /-- Change the shared state. -/
  | note (update : σ → σ) (rest : Hook σ Out In)
  /-- Look at the shared state. -/
  | look (rest : σ → Hook σ Out In)

/-- Where an interceptor stands, and the path of the call. -/
structure Site where
  /-- The number of interceptors between this one and the transport. -/
  position : Nat
  path : String

/-- One stage of a chain. Every hook forwards unless told otherwise. -/
structure Interceptor (σ Out In : Type) where
  outbound : Site → Out → Hook σ Out In := fun _ part => .send part .done
  inbound : Site → In → Hook σ Out In := fun _ part => .receive part .done
  failure : Site → CallError → Hook σ Out In := fun _ e => .fail e .done

namespace Interceptor

variable {σ Out In : Type}

/-- What the interceptor does about an arrival. -/
def arrive (i : Interceptor σ Out In) (site : Site) : Arrival In → Hook σ Out In
  | .part part => i.inbound site part
  | .failure e => i.failure site e

def forward : Interceptor σ Out In := {}

end Interceptor

/-- The two ends of a chain, and the state its hooks share. -/
structure Edges (σ Out In W : Type) where
  transport : Out → W → W
  application : In → W → W
  failure : CallError → W → W
  shared : W → σ
  note : (σ → σ) → W → W

namespace Edges

variable {σ Out In W : Type}

/-- What happens to an arrival that made it through the chain. -/
def arrive (edges : Edges σ Out In W) : Arrival In → W → W
  | .part part => edges.application part
  | .failure e => edges.failure e

end Edges

namespace Hook

variable {σ Out In W : Type}

def run (edges : Edges σ Out In W) (below : Out → W → W) (above : Arrival In → W → W) :
    Hook σ Out In → W → W
  | done, w => w
  | send part rest, w => rest.run edges below above (below part w)
  | receive part rest, w => rest.run edges below above (above (.part part) w)
  | fail e rest, w => rest.run edges below above (above (.failure e) w)
  | note update rest, w => rest.run edges below above (edges.note update w)
  | look rest, w => (rest (edges.shared w)).run edges below above w

end Hook

/-- A list of interceptors, the first one nearest the transport. -/
structure Chain (σ Out In : Type) where
  interceptors : List (Interceptor σ Out In) := []
  /-- How deep answers toward the transport may nest inside arrivals. -/
  turns : Nat := 256

namespace Chain

variable {σ Out In W : Type}

/-- Runs an arrival through the interceptors in `above`. Those in `below` were passed already,
the last one passed first; `answer` runs a part outward through them. -/
def inward (edges : Edges σ Out In W) (path : String)
    (answer : (below above : List (Interceptor σ Out In)) → Out → W → W) :
    (below above : List (Interceptor σ Out In)) → Arrival In → W → W
  | _, [], arrival => edges.arrive arrival
  | below, i :: above, arrival =>
    (i.arrive ⟨below.length, path⟩ arrival).run edges (answer below (i :: above))
      (inward edges path answer (i :: below) above)

/-- Runs a part outward through the interceptors in `below`, the nearest first. Those in `above`
were passed already. -/
def outward (edges : Edges σ Out In W) (path : String)
    (answer : (below above : List (Interceptor σ Out In)) → Out → W → W) :
    (below above : List (Interceptor σ Out In)) → Out → W → W
  | [], _, part => edges.transport part
  | i :: below, above, part =>
    (i.outbound ⟨below.length, path⟩ part).run edges
      (outward edges path answer below (i :: above))
      (inward edges path answer (i :: below) above)

/-- Runs a part outward that a hook gave as an answer to an arrival. -/
def answer (edges : Edges σ Out In W) (path : String) :
    (turns : Nat) → (below above : List (Interceptor σ Out In)) → Out → W → W
  | 0, _, _, _ => id
  | turns + 1, below, above, part => outward edges path (answer edges path turns) below above part

/-- Runs a part of the application toward the transport. -/
def send (chain : Chain σ Out In) (edges : Edges σ Out In W) (path : String) (part : Out) :
    W → W :=
  outward edges path (answer edges path chain.turns) chain.interceptors.reverse [] part

/-- Runs an arrival from the transport toward the application. -/
def arrive (chain : Chain σ Out In) (edges : Edges σ Out In W) (path : String)
    (arrival : Arrival In) : W → W :=
  inward edges path (answer edges path chain.turns) [] chain.interceptors arrival

/-- Runs a part from the transport toward the application. -/
def receive (chain : Chain σ Out In) (edges : Edges σ Out In W) (path : String) (part : In) :
    W → W :=
  chain.arrive edges path (.part part)

/-- Runs a failure from the transport toward the application. -/
def fail (chain : Chain σ Out In) (edges : Edges σ Out In W) (path : String) (e : CallError) :
    W → W :=
  chain.arrive edges path (.failure e)

/-- The chain without interceptors. -/
def empty : Chain σ Out In := {}

def size (chain : Chain σ Out In) : Nat := chain.interceptors.length

@[simp] theorem send_empty (edges : Edges σ Out In W) (path : String) (part : Out) :
    (empty : Chain σ Out In).send edges path part = edges.transport part := rfl

@[simp] theorem arrive_empty (edges : Edges σ Out In W) (path : String) (arrival : Arrival In) :
    (empty : Chain σ Out In).arrive edges path arrival = edges.arrive arrival := by
  cases arrival <;> rfl

end Chain

end RemoteCall
