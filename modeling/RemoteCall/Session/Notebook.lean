/-!
# The notebook of a call

What the interceptors of a call, and its handler, share in a session: a counter, the lines that
interceptors log and the lines that the handler logs.
-/

namespace RemoteCall.Session

/-- The shared state of one side of a call. -/
structure Notebook where
  count : Nat := 0
  /-- What the interceptors logged since the last report. -/
  hookLines : List String := []
  /-- What the handler logged since the last report. -/
  handlerLines : List String := []

namespace Notebook

/-- Adds a line of an interceptor. -/
def logHook (line : String) (book : Notebook) : Notebook :=
  { book with hookLines := book.hookLines ++ [line] }

def logHandler (line : String) (book : Notebook) : Notebook :=
  { book with handlerLines := book.handlerLines ++ [line] }

/-- Adds one to the counter. -/
def increment (book : Notebook) : Notebook := { book with count := book.count + 1 }

/-- An empty log, and the counter as it is. -/
def reported (book : Notebook) : Notebook := { count := book.count }

end Notebook

end RemoteCall.Session
