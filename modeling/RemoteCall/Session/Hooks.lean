import RemoteCall.Interceptor
import RemoteCall.Part
import RemoteCall.Session.Notebook

/-!
# Scripted interceptors

`HookSpec` describes an interceptor as data. Besides those that add headers and those that let
everything pass, there are scripted ones: lists of rules, one list for each direction. The first
rule that fits what an interceptor sees tells what it does about it, and without a fitting rule it
lets it pass.
-/

namespace RemoteCall.Session

/-- What a script can tell about, and do to, a kind of thing that travels through a chain. -/
structure Subject (H : Type) where
  /-- The word by which rules choose. -/
  label : H → String
  /-- The text of a message. -/
  text? : H → Option String
  /-- Appends to the text of a message. -/
  tag : String → H → H
  /-- Adds a header or a trailer. -/
  header : String → String → H → H

namespace Subject

/-- Request parts. An end has no trailers. -/
def request : Subject (RequestPart String) where
  label part := part.kind.label
  text?
    | .message text _ => some text
    | _ => none
  tag suffix
    | .message text flags => .message (text ++ suffix) flags
    | other => other
  header name value
    | .headers m => .headers (m.insert name value)
    | other => other

def response : Subject (ResponsePart String) where
  label part := part.kind.label
  text?
    | .message text _ => some text
    | _ => none
  tag suffix
    | .message text flags => .message (text ++ suffix) flags
    | other => other
  header name value
    | .headers m => .headers (m.insert name value)
    | .finish status trailers => .finish status (trailers.insert name value)
    | other => other

def failure : Subject CallError where
  label e := e.kind
  text? _ := none
  tag _ e := e
  header _ _ e := e

end Subject

/-- One action of a rule about an `H`, in a chain for `Out` and `In`. -/
inductive Act (H Out In : Type) where
  | forward
  | tag (suffix : String)
  | header (name value : String)
  | replace (substitute : H)
  | send (part : Out)
  | receive (part : In)
  | fail (e : CallError)
  | log
  | path
  | count

/-- A rule: what it fits, and what is done then. -/
structure Rule (H Out In : Type) where
  label : Option String := none
  text : Option String := none
  acts : List (Act H Out In)

def Rule.fits {H Out In : Type} (subject : Subject H) (rule : Rule H Out In) (seen : H) : Bool :=
  (match rule.label with
    | some label => subject.label seen == label
    | none => true) &&
  (match rule.text with
    | some text => subject.text? seen == some text
    | none => true)

/-- Who logs, and about what. -/
structure Signature where
  name : String
  site : Site
  direction : String
  label : String

namespace Signature

/-- The line about something seen. -/
def seenLine (s : Signature) : String :=
  s.name ++ "@" ++ toString s.site.position ++ " " ++ s.direction ++ " " ++ s.label

def pathLine (s : Signature) : String := s.name ++ " " ++ s.site.path

/-- Counts, and logs the new count. -/
def countUp (s : Signature) (book : Notebook) : Notebook :=
  let book := book.increment
  book.logHook (s.name ++ " count " ++ toString book.count)

end Signature

/-- Carries out actions. `pass` lets the current subject go on its way. -/
def Act.hook {H Out In : Type} (subject : Subject H) (signature : Signature)
    (pass : H → Hook Notebook Out In → Hook Notebook Out In) :
    List (Act H Out In) → H → Hook Notebook Out In
  | [], _ => .done
  | act :: rest, current =>
    match act with
    | .forward => pass current (hook subject signature pass rest current)
    | .tag suffix => hook subject signature pass rest (subject.tag suffix current)
    | .header name value => hook subject signature pass rest (subject.header name value current)
    | .replace substitute => hook subject signature pass rest substitute
    | .send part => .send part (hook subject signature pass rest current)
    | .receive part => .receive part (hook subject signature pass rest current)
    | .fail e => .fail e (hook subject signature pass rest current)
    | .log =>
      .note (Notebook.logHook signature.seenLine) (hook subject signature pass rest current)
    | .path =>
      .note (Notebook.logHook signature.pathLine) (hook subject signature pass rest current)
    | .count => .note signature.countUp (hook subject signature pass rest current)

/-- Applies the first rule that fits, and lets pass what none fits. -/
def Rule.hook {H Out In : Type} (subject : Subject H) (name direction : String)
    (pass : H → Hook Notebook Out In → Hook Notebook Out In) (rules : List (Rule H Out In))
    (site : Site) (seen : H) : Hook Notebook Out In :=
  match rules.find? fun rule => rule.fits subject seen with
  | some rule => Act.hook subject ⟨name, site, direction, subject.label seen⟩ pass rule.acts seen
  | none => pass seen .done

/-- An interceptor of a chain for `Out` and `In`. -/
inductive HookSpec (Out In : Type) where
  /-- Adds entries to the headers that travel outward. -/
  | headers (entries : Metadata)
  /-- Lets everything pass. -/
  | pass
  | script (name : String) (outbound : List (Rule Out Out In)) (inbound : List (Rule In Out In))
      (failures : List (Rule CallError Out In))

namespace HookSpec

variable {Out In : Type}

/-- The interceptor that a description stands for. `extend` adds entries to the headers of a
part that travels outward. -/
def interceptor (outward : Subject Out) (inward : Subject In) (extend : Metadata → Out → Out) :
    HookSpec Out In → Interceptor Notebook Out In
  | headers entries => { outbound := fun _ part => .send (extend entries part) .done }
  | pass => .forward
  | script name outbound inbound failures =>
    { outbound := Rule.hook outward name "out" .send outbound
      inbound := Rule.hook inward name "in" .receive inbound
      failure := Rule.hook Subject.failure name "error" .fail failures }

abbrev Client := HookSpec (RequestPart String) (ResponsePart String)

abbrev Server := HookSpec (ResponsePart String) (RequestPart String)

def clientChain (specs : List Client) :
    Chain Notebook (RequestPart String) (ResponsePart String) where
  interceptors := specs.map <| interceptor .request .response fun entries part =>
    match part with
    | .headers m => .headers (m.extend entries)
    | other => other

def serverChain (specs : List Server) :
    Chain Notebook (ResponsePart String) (RequestPart String) where
  interceptors := specs.map <| interceptor .response .request fun entries part =>
    match part with
    | .headers m => .headers (m.extend entries)
    | other => other

end HookSpec

end RemoteCall.Session
