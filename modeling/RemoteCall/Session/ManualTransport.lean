import RemoteCall.Acceptance

/-!
# Transports played by hand

A `ManualTransport` answers each part, and each cancellation, in the way it is told: accepted at
once, rejected at once, or left open. The acceptances left open are numbered in the order in which
they were given, and are settled one by one later.
-/

namespace RemoteCall.Session

/-- How a transport answers what it is handed. -/
inductive Stance where
  | accepting
  | rejecting (e : CallError)
  | leavingOpen
  deriving Inhabited

/-- The state of an acceptance given with a stance. -/
def Stance.signal : Stance → Signal
  | accepting => .settled (.ok ())
  | rejecting e => .settled (.error e)
  | leavingOpen => .waiting

/-- The acceptances given for things of one kind. -/
structure Acceptances where
  stance : Stance := .accepting
  /-- The acceptance of each thing, by its number. -/
  signals : List Signal := []
  /-- The numbers of those left open, in order. -/
  leftOpen : List Nat := []

namespace Acceptances

/-- Answers one more thing. -/
def give (a : Acceptances) : Acceptances :=
  { a with
    signals := a.signals ++ [a.stance.signal]
    leftOpen :=
      match a.stance with
      | .leavingOpen => a.leftOpen ++ [a.signals.length]
      | _ => a.leftOpen }

def signal (a : Acceptances) (number : Nat) : Signal := (a.signals[number]?).getD .waiting

/-- Settles the acceptance left open with an index, unless it is settled. -/
def settle (a : Acceptances) (index : Nat) (outcome : Signal) : Option Acceptances :=
  match a.leftOpen[index]? with
  | none => none
  | some number =>
    match a.signal number with
    | .waiting => some { a with signals := a.signals.set number outcome }
    | _ => none

end Acceptances

/-- A transport played by hand. -/
structure ManualTransport where
  parts : Acceptances := {}
  cancels : Acceptances := {}

namespace ManualTransport

/-- A transport that takes a stance on parts and one on cancellations. -/
def withStances (parts cancels : Stance) : ManualTransport :=
  ⟨{ stance := parts }, { stance := cancels }⟩

/-- Settles an acceptance left open. -/
def settle (t : ManualTransport) (ofCancel : Bool) (index : Nat) (outcome : Signal) :
    Option ManualTransport :=
  if ofCancel then (t.cancels.settle index outcome).map fun cancels => { t with cancels }
  else (t.parts.settle index outcome).map fun parts => { t with parts }

/-- Changes the stance on parts. -/
def withStance (t : ManualTransport) (stance : Stance) : ManualTransport :=
  { t with parts := { t.parts with stance } }

end ManualTransport

end RemoteCall.Session
