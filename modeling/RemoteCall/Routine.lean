/-!
# Routines that overlap

Several threads work on one call at once. What one operation does to the state it shares with the
others is a `Routine`: a list of steps, each of which reads and changes the state at once, while
between two steps anything may happen. What comes next may depend on what a step has found. A step
can have to wait until the state is `ready` for it, as one that takes a lock does.

`Routine.alone?` runs a routine with nothing in between. A `Crowd` is a state with the routines
that were begun on it. In a `Turn` an operation begins, or a routine takes its next step; so a list
of turns is one way in which operations overlap. A callback that comes back on the same thread is
such an overlap as well: its routine takes all its steps between two steps of the one it
interrupts.
-/

namespace RemoteCall

/-- What an operation does, step by step, to a state of type `W`, and the value it has at its
end. -/
inductive Routine (W α : Type) where
  | done (value : α)
  /-- Once the state is ready, change it, and go on by what it was before. -/
  | step (ready : W → Bool) (change : W → W) (next : W → Routine W α)

namespace Routine

variable {W α β ρ : Type}

def bind : Routine W α → (α → Routine W β) → Routine W β
  | done a, f => f a
  | step ready change next, f => step ready change fun w => (next w).bind f

instance : Monad (Routine W) where
  pure := done
  bind := bind

/-- One step that reads and changes the state. -/
def atomically (f : W → α × W) : Routine W α :=
  step (fun _ => true) (fun w => (f w).2) fun w => done (f w).1

/-- One step that changes the state. -/
def act (change : W → W) : Routine W Unit := step (fun _ => true) change fun _ => done ()

/-- One step that reads the state. -/
def read (get : W → α) : Routine W α := step (fun _ => true) id fun w => done (get w)

/-- One step that waits until the state is ready, and changes it then. -/
def await (ready : W → Bool) (change : W → W) : Routine W Unit :=
  step ready change fun _ => done ()

/-- A wait that is never over: for a lock that whoever waits is holding. -/
def never (value : α) : Routine W α := step (fun _ => false) id fun _ => done value

/-- Two routines one after the other, with what both have collected. -/
def andThen (first second : Routine W (List ρ)) : Routine W (List ρ) := do
  let found ← first
  let more ← second
  return found ++ more

/-- One routine for each element of a list. -/
def forEach (f : α → Routine W (List ρ)) : List α → Routine W (List ρ)
  | [] => return []
  | a :: rest => (f a).andThen (forEach f rest)

/-- What a routine does when nothing happens in between: its value and the last state, or `none`
if it waits for ever. -/
def alone? : Routine W α → W → Option (α × W)
  | done a, w => some (a, w)
  | step ready change next, w => if ready w then (next w).alone? (change w) else none

/-- The next step of a routine, if it has one and the state is ready for it: the rest and the
state after it. -/
def next? : Routine W α → W → Option (Routine W α × W)
  | done _, _ => none
  | step ready change next, w => if ready w then some (next w, change w) else none

end Routine

/-- What goes on at once: a state and the routines begun on it, each with its operation. -/
structure Crowd (Op W α : Type) where
  state : W
  routines : List (Op × Routine W α) := []

/-- What may happen next in a crowd. -/
inductive Crowd.Turn (Op : Type) where
  | begin (op : Op)
  /-- The routine with this index takes its next step. -/
  | go (index : Nat)

namespace Crowd

variable {Op W α : Type}

/-- A crowd after a turn. A turn that is not possible changes nothing. -/
def turn (routine : Op → Routine W α) (c : Crowd Op W α) : Turn Op → Crowd Op W α
  | .begin op => { c with routines := c.routines ++ [(op, routine op)] }
  | .go i =>
    match c.routines[i]? with
    | none => c
    | some (op, r) =>
      match r.next? c.state with
      | none => c
      | some (rest, w) => { state := w, routines := c.routines.set i (op, rest) }

def after (routine : Op → Routine W α) (c : Crowd Op W α) (turns : List (Turn Op)) :
    Crowd Op W α :=
  turns.foldl (turn routine) c

/-- The operation has run to its end, with this value. -/
def Returned (c : Crowd Op W α) (op : Op) (value : α) : Prop := (op, .done value) ∈ c.routines

end Crowd

end RemoteCall
