import RemoteCall.Poll

/-!
# Cancel scopes

A scope is cancelled once and for ever, and every clone of it sees that. A computation that runs
inside a scope is polled only while the scope is not cancelled: a poll begun after the
cancellation gives up without touching it. The inner computation is dropped in the poll that
finishes the run, or when the run itself is dropped.

`ScopeTable` holds scopes under names (clones share a token) and the computations that wait on
them.
-/

namespace RemoteCall

/-- A computation inside a scope: the value it is ready with, once it is. -/
structure Inner (V : Type) where
  value? : Option V := none
  /-- How often it was polled. -/
  polls : Nat := 0
  deriving DecidableEq

namespace Inner

variable {V : Type}

/-- One poll of the computation. -/
def poll (inner : Inner V) : Poll V × Inner V :=
  let inner := { inner with polls := inner.polls + 1 }
  match inner.value? with
  | some value => (.ready value, inner)
  | none => (.pending, inner)

/-- Gives the computation its value, if it has none yet. -/
def complete (inner : Inner V) (value : V) : Inner V :=
  { inner with value? := inner.value?.or (some value) }

end Inner

/-- One poll of a run: gives up if the scope is cancelled, and else polls the inner computation,
of whatever kind that is. -/
def CancelScope.poll {F V : Type} (advance : F → Poll V × F) (cancelled : Bool) (inner : F) :
    Poll (Option V) × F :=
  if cancelled then (.ready none, inner)
  else
    let (answer, inner) := advance inner
    (answer.map some, inner)

/-- What waits on a scope. -/
inductive ScopeTask (V : Type) where
  /-- For the cancellation itself. -/
  | wait (token : Nat) (waker : Waker)
  /-- For an inner computation, inside the scope. -/
  | run (token : Nat) (inner : Inner V) (waker : Waker)

namespace ScopeTask

variable {V : Type}

def token : ScopeTask V → Nat
  | wait token _ => token
  | run token _ _ => token

/-- The wish to be woken. -/
def waker : ScopeTask V → Waker
  | wait _ waker => waker
  | run _ _ waker => waker

/-- Grants the wish to be woken. -/
def wake : ScopeTask V → ScopeTask V
  | wait token waker => wait token waker.wake
  | run token inner waker => run token inner waker.wake

/-- Whether there is an inner computation to drop. -/
def isRun : ScopeTask V → Bool
  | wait _ _ => false
  | run _ _ _ => true

end ScopeTask

/-- The value of a finished task: the scope was cancelled, or a run ended, with its inner value
if the inner computation was the one that ended it. -/
inductive ScopeValue (V : Type) where
  | cancelled
  | ran (value : Option V)

/-- Scopes and tasks by name. -/
structure ScopeTable (V : Type) where
  /-- For each token whether it is cancelled. -/
  tokens : List Bool := [false]
  /-- The scopes and their tokens. -/
  scopes : Named Nat := [("a", 0)]
  tasks : Named (ScopeTask V) := []
  /-- Tasks whose inner computation was dropped, since the list was last emptied. -/
  dropped : List String := []

namespace ScopeTable

variable {V : Type}

def tokenOf (t : ScopeTable V) (scope : String) : Nat := (t.scopes.find? scope).getD 0

def isCancelled (t : ScopeTable V) (token : Nat) : Bool := (t.tokens[token]?).getD false

def create (t : ScopeTable V) (scope : String) : ScopeTable V :=
  { t with tokens := t.tokens ++ [false], scopes := t.scopes.put scope t.tokens.length }

/-- A clone shares the token. -/
def clone (t : ScopeTable V) (scope name : String) : ScopeTable V :=
  { t with scopes := t.scopes.put name (t.tokenOf scope) }

/-- Cancels a scope, and wakes what waits on it the first time. -/
def cancel (t : ScopeTable V) (scope : String) : ScopeTable V :=
  let token := t.tokenOf scope
  { t with
    tokens := t.tokens.set token true
    tasks := t.tasks.map fun e => (e.1, if e.2.token == token then e.2.wake else e.2) }

/-- Forgets a task, and with it its inner computation. -/
def forget (t : ScopeTable V) (name : String) : ScopeTable V :=
  match t.tasks.find? name with
  | none => t
  | some task =>
    { t with
      tasks := t.tasks.erase name
      dropped := if task.isRun then t.dropped ++ [name] else t.dropped }

/-- Polls a task, if it is there. A task that has its value is forgotten. -/
def poll (t : ScopeTable V) (name : String) : Option (Poll (ScopeValue V)) × ScopeTable V :=
  match t.tasks.find? name with
  | none => (none, t)
  | some (.wait token _) =>
    if t.isCancelled token then (some (.ready .cancelled), t.forget name)
    else (some .pending, { t with tasks := t.tasks.put name (.wait token .armed) })
  | some (.run token inner _) =>
    match CancelScope.poll Inner.poll (t.isCancelled token) inner with
    | (.ready value, _) => (some (.ready (.ran value)), t.forget name)
    | (.pending, inner) =>
      (some .pending, { t with tasks := t.tasks.put name (.run token inner .armed) })

/-- Puts a task under a name, in place of one of that name. It does nothing before it is polled. -/
def launch (t : ScopeTable V) (name : String) (task : ScopeTask V) : ScopeTable V :=
  let t := t.forget name
  { t with tasks := t.tasks.put name task }

/-- The task that waits for a scope to be cancelled. -/
def waitTask (t : ScopeTable V) (scope : String) : ScopeTask V := .wait (t.tokenOf scope) .idle

/-- The task that runs a computation inside a scope. The computation is ready with a value, or not
ready yet. -/
def runTask (t : ScopeTable V) (scope : String) (value? : Option V) : ScopeTask V :=
  .run (t.tokenOf scope) { value? } .idle

/-- Starts waiting for a cancellation, and polls for it. -/
def wait (t : ScopeTable V) (name scope : String) :
    Option (Poll (ScopeValue V)) × ScopeTable V :=
  (t.launch name (t.waitTask scope)).poll name

/-- Starts a run, and polls it. -/
def run (t : ScopeTable V) (name scope : String) (value? : Option V) :
    Option (Poll (ScopeValue V)) × ScopeTable V :=
  (t.launch name (t.runTask scope value?)).poll name

/-- Gives an inner computation its value. Fails if it has one already or is gone. -/
def complete (t : ScopeTable V) (name : String) (value : V) : Bool × ScopeTable V :=
  match t.tasks.find? name with
  | some (.run token inner waker) =>
    match inner.value? with
    | some _ => (false, t)
    | none =>
      (true, { t with tasks := t.tasks.put name (.run token (inner.complete value) waker.wake) })
  | _ => (false, t)

/-- Drops a task. Answers whether it was there. -/
def drop (t : ScopeTable V) (name : String) : Bool × ScopeTable V :=
  ((t.tasks.find? name).isSome, t.forget name)

/-- The tasks woken since their last poll. -/
def woken (t : ScopeTable V) : List String :=
  (t.tasks.filter fun e => e.2.waker.wasWoken).map Prod.fst

end ScopeTable

end RemoteCall
