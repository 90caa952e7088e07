import RemoteCall.Json.Form
import RemoteCall.Server.Handler
import RemoteCall.Session.Notebook
import RemoteCall.Text.Blank

/-!
# Scripted handlers

A script is a list of instructions that a handler carries out one after the other. `Memory` holds
the messages it has received. Where an instruction takes a text, the marks for the last message,
for all messages and for their number are filled in.

`Script.wish` is what the instruction at the head asks for. An instruction that takes several
steps puts the later ones in its place: a batch of messages to write, or a line to log.
-/

namespace RemoteCall.Session

/-- Replaces every occurrence of a nonempty word, from left to right. `skip` characters still
belong to the occurrence found last. -/
def replaceFrom (word substitute : List Char) : (skip : Nat) → List Char → List Char
  | _, [] => []
  | skip + 1, _ :: rest => replaceFrom word substitute skip rest
  | 0, c :: rest =>
    if word.isPrefixOf (c :: rest) then
      substitute ++ replaceFrom word substitute (word.length - 1) rest
    else c :: replaceFrom word substitute 0 rest

/-- Replaces every occurrence of a nonempty word. -/
def replaceWord (word substitute text : String) : String :=
  String.ofList (replaceFrom word.toList substitute.toList 0 text.toList)

/-- The messages that a handler has received. -/
structure Memory where
  /-- The last one. -/
  last : String := ""
  all : List String := []

namespace Memory

def take (m : Memory) (message : String) : Memory := ⟨message, m.all ++ [message]⟩

def fill (m : Memory) (text : String) : String :=
  replaceWord "\x7bcount\x7d" (toString m.all.length)
    (replaceWord "\x7ball\x7d" (" ".intercalate m.all) (replaceWord "\x7blast\x7d" m.last text))

end Memory

/-- One instruction of a handler. -/
inductive Instruction where
  /-- Take a message and log what came; `strict` returns a failure. -/
  | receive (strict : Bool)
  /-- Take all messages. -/
  | collect
  /-- Answer each message with a text ahead of it. -/
  | echo (lead : String)
  /-- Answer each word of the last message with a text ahead of it. -/
  | split (lead : String)
  /-- Write a message and log how that went; `strict` returns a failure. -/
  | send (text : String) (compression : Compression) (strict : Bool)
  | header (name value : String)
  | trailer (name value : String)
  | compress (allowed : Bool)
  | log (text : String)
  /-- Log what the handler sees of its call. -/
  | logContext
  /-- Count, and log the count. -/
  | count
  | waitCancelled
  | sleep (milliseconds : Nat)
  /-- Leave context and writer to somebody else as well. -/
  | leak
  /-- Leave the request stream to somebody else. -/
  | leakStream
  | fail (e : CallError)
  | reply (text : String)
  /-- Log a line as it stands. -/
  | note (line : String)
  /-- Write messages as they stand. -/
  | write (messages : List String)

/-- Where a scripted handler stands. -/
structure Script where
  memory : Memory := {}
  program : List Instruction
  /-- The shape answers once, so the handler returns a response. -/
  replies : Bool

namespace Script

abbrev Wish := Server.Wish Notebook String String Script

/-- The line about the fate of a request or a response. -/
def resultLine (word : String) (result : Json.Value) : String := word ++ " " ++ result.text

/-- The line about a call. -/
def viewLine (view : Server.View Notebook) : String :=
  view.path ++ " " ++ (Json.ofMetadata view.headers).text ++
    " cancelled=" ++ Text.truth view.cancelled ++ " compression=" ++ Text.truth view.compression

def countUp (book : Notebook) : Notebook :=
  let book := book.increment
  book.logHandler ("count " ++ toString book.count)

/-- What a script goes on with after a message to take. -/
def afterReceive (s : Script) (strict : Bool) (rest : List Instruction)
    (answer : Result (Option String)) : Script :=
  let line := .note (resultLine "recv" (Json.ofItem answer))
  match answer with
  | .ok (some text) => { s with memory := s.memory.take text, program := line :: rest }
  | .ok none => { s with program := line :: rest }
  | .error e => { s with program := line :: if strict then [.fail e] else rest }

/-- What a script goes on with after a message that it wrote. -/
def afterSend (s : Script) (strict : Bool) (rest : List Instruction) (answer : Result Unit) :
    Script :=
  let line := .note (resultLine "send" (Json.ofUnitResult answer))
  match answer with
  | .ok () => { s with program := line :: rest }
  | .error e => { s with program := line :: if strict then [.fail e] else rest }

/-- What a script goes on with when it takes messages until they end. -/
def afterEach (s : Script) (again rest : List Instruction) (react : String → List Instruction)
    (answer : Result (Option String)) : Script :=
  match answer with
  | .ok (some text) =>
    { s with memory := s.memory.take text, program := react text ++ again }
  | .ok none => { s with program := rest }
  | .error e => { s with program := [.fail e] }

/-- What a script goes on with when a failure makes it return. -/
def orFail (s : Script) (rest : List Instruction) : Result Unit → Script
  | .ok () => { s with program := rest }
  | .error e => { s with program := [.fail e] }

def returned (s : Script) (text : String) : Wish :=
  .finish (.ok (if s.replies then some text else none))

/-- What the instructions ahead ask for. -/
def wishOf (s : Script) : List Instruction → Wish
  | [] => s.returned "done"
  | .receive strict :: rest => .pull (s.afterReceive strict rest)
  | .collect :: rest => .pull (s.afterEach (.collect :: rest) rest fun _ => [])
  | .echo lead :: rest =>
    .pull (s.afterEach (.echo lead :: rest) rest fun text => [.write [lead ++ text]])
  | .split lead :: rest =>
    match Text.words s.memory.last with
    | [] => s.wishOf rest
    | word :: words =>
      .write (lead ++ word) .deferred (s.orFail (.write (words.map (lead ++ ·)) :: rest))
  | .write [] :: rest => s.wishOf rest
  | .write (message :: messages) :: rest =>
    .write message .deferred (s.orFail (.write messages :: rest))
  | .send text compression strict :: rest =>
    .write (s.memory.fill text) compression (s.afterSend strict rest)
  | .header name value :: rest =>
    .stageHeader (s.memory.fill name) (s.memory.fill value) { s with program := rest }
  | .trailer name value :: rest =>
    .stageTrailer (s.memory.fill name) (s.memory.fill value) { s with program := rest }
  | .compress allowed :: rest => .allowCompression allowed { s with program := rest }
  | .log text :: rest =>
    .note (Notebook.logHandler (s.memory.fill text)) { s with program := rest }
  | .logContext :: rest =>
    .observe fun view => { s with program := .note (viewLine view) :: rest }
  | .count :: rest => .note countUp { s with program := rest }
  | .waitCancelled :: rest => .awaitCancelled { s with program := rest }
  | .sleep milliseconds :: rest => .sleep milliseconds { s with program := rest }
  | .leak :: rest => .lend { s with program := rest }
  | .leakStream :: rest => .lendStream { s with program := rest }
  | .fail e :: _ => .finish (.error e)
  | .reply text :: _ => s.returned (s.memory.fill text)
  | .note line :: rest => .note (Notebook.logHandler line) { s with program := rest }

/-- What a scripted handler asks for. -/
def wish (s : Script) : Wish := s.wishOf s.program

/-- The handler that carries out a program. It first logs that it was started. -/
def handler (shape : CallShape) (program : List Instruction) :
    Server.Handler Notebook String String Script where
  start path request :=
    { memory :=
        match request with
        | some message => Memory.take {} message
        | none => {}
      program := .note ("start " ++ path) :: program
      replies := !shape.streamsResponses }
  wish := wish

end Script

end RemoteCall.Session
