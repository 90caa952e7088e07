import RemoteCall.Poll

/-!
# Errands

An errand is a job on a call that somebody started: a send, a wait, a forwarder. Some are kept
under a name until their value is asked for, the others run in the background. An errand does
nothing before it is polled the first time; `Errand.begun` says whether that has happened.
-/

namespace RemoteCall

/-- A job on its way. `J` is the type of jobs. -/
structure Errand (J : Type) where
  /-- The name under which the value is reported. -/
  id : Option String := none
  /-- It was polled at least once. -/
  begun : Bool := true
  job : J

/-- How a job goes on after it has moved: with another job, or not at all. -/
inductive Turn (J V : Type) where
  | goesOn (job : J)
  | done (value : V)

/-- Converts the job or the value of a turn. -/
def Turn.map {J K V U : Type} (f : J → K) (g : V → U) : Turn J V → Turn K U
  | goesOn job => goesOn (f job)
  | done value => done (g value)

namespace Errand

variable {J α : Type}

/-- The first errand that can move. One that was never polled cannot. -/
def next? (f : J → Option α) :
    List (Errand J) → Option (List (Errand J) × Errand J × α × List (Errand J)) :=
  pickFirst? fun errand => if errand.begun then f errand.job else none

def isNamed (errand : Errand J) (id : String) : Bool := errand.id == some id

def poll (errands : List (Errand J)) (id : String) : List (Errand J) :=
  errands.map fun errand => if errand.isNamed id then { errand with begun := true } else errand

theorem poll_append (first second : List (Errand J)) (id : String) :
    poll (first ++ second) id = poll first id ++ poll second id :=
  List.map_append

def has (errands : List (Errand J)) (id : String) : Bool := errands.any (·.isNamed id)

/-- Drops the errand of a name. -/
def erase (errands : List (Errand J)) (id : String) : List (Errand J) :=
  errands.filter fun errand => !errand.isNamed id

end Errand

end RemoteCall
