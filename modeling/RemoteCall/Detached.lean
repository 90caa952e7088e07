/-!
# Detached tasks

A detached task runs on its own. Started where a scheduler is at hand it is left to that
scheduler; elsewhere there is a fallback thread for it. Either way each task runs once.
-/

namespace RemoteCall.Detached

/-- Where a detached task runs. -/
inductive Place where
  /-- On the scheduler of whoever started it. -/
  | ambient
  | fallback
  deriving DecidableEq

/-- Where a task runs that is started with or without a scheduler at hand. -/
def place (scheduled : Bool) : Place := if scheduled then .ambient else .fallback

/-- The tasks of a batch, each with its number and where it runs. -/
def runs (count : Nat) (scheduled : Bool) : List (Nat × Place) :=
  (List.range count).map fun number => (number, place scheduled)

end RemoteCall.Detached
