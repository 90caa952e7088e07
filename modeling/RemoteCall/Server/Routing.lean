import RemoteCall.Metadata
import RemoteCall.Options
import RemoteCall.Part
import RemoteCall.Text.Quoted

/-!
# Routing

A path `/service/method` names a method of a service. A `Router` collects the routes of one
service: each route takes the codec in force when it is added, and a later route of the same name
replaces an earlier one. A `Server` collects routers in the same way. `Server.handle?` looks a
path up, and `Server.dispatch` answers paths that lead nowhere.
-/

namespace RemoteCall.Server

/-- The part before the first slash and the part after it. -/
def cutAtSlash? : List Char → Option (List Char × List Char)
  | [] => none
  | c :: rest =>
    if c = '/' then some ([], rest)
    else
      match cutAtSlash? rest with
      | some (before, after) => some (c :: before, after)
      | none => none

/-- The service and the method that a path names. Neither is empty nor holds a slash. -/
def splitPath? (path : String) : Option (String × String) :=
  match path.toList with
  | '/' :: rest =>
    match cutAtSlash? rest with
    | some (service, method) =>
      if service = [] || method = [] || method.contains '/' then none
      else some (String.ofList service, String.ofList method)
    | none => none
  | _ => none

/-- A list of entries in which a later entry replaces an earlier one of its name. -/
def register {α : Type} (entries : List (String × α)) (name : String) (value : α) :
    List (String × α) :=
  (name, value) :: entries.filter fun entry => entry.1 != name

def lookup? {α : Type} (entries : List (String × α)) (name : String) : Option α :=
  (entries.find? fun entry => entry.1 == name).map Prod.snd

@[simp] theorem lookup?_register_self {α : Type} (entries : List (String × α)) (name : String)
    (value : α) : lookup? (register entries name value) name = some value := by
  simp [lookup?, register]

theorem lookup?_register_of_ne {α : Type} (entries : List (String × α)) {name other : String}
    (h : other ≠ name) (value : α) :
    lookup? (register entries name value) other = lookup? entries other := by
  unfold lookup? register
  rw [List.find?_cons_of_neg (by simp [Ne.symm h]), List.find?_filter]
  congr 2
  funext entry
  by_cases hentry : entry.1 = other
  · simp [hentry, h]
  · simp [hentry]

/-- The routes of a service. `K` is the type of codecs and `R` that of routes. -/
structure Router (K R : Type) where
  name : String
  /-- The codec for the routes added from now on. -/
  codec : K
  /-- The routes, each with its codec. -/
  methods : List (String × R × K) := []

namespace Router

variable {K R : Type}

/-- Switches the codec for later routes. -/
def withCodec (router : Router K R) (codec : K) : Router K R := { router with codec }

def route (router : Router K R) (method : String) (route : R) : Router K R :=
  { router with methods := register router.methods method (route, router.codec) }

def methodNames (router : Router K R) : List String :=
  (router.methods.map Prod.fst).mergeSort (fun a b => a ≤ b)

def text (router : Router K R) : String :=
  Text.fullRecord "ServiceRouter"
    [("name", Text.quoted router.name),
      ("methods", Text.listed (router.methodNames.map Text.quoted))]

end Router

end Server

/-- A registry of services. -/
structure Server (K R : Type) where
  config : ServerConfig := {}
  services : List (String × Server.Router K R) := []

namespace Server

variable {K R : Type}

def add (server : Server K R) (router : Router K R) : Server K R :=
  { server with services := register server.services router.name router }

/-- The route that a path leads to, with its codec. -/
def handle? (server : Server K R) (path : String) : Option (R × K) :=
  match splitPath? path with
  | some (service, method) =>
    match lookup? server.services service with
    | some router => lookup? router.methods method
    | none => none
  | none => none

/-- The answer to a path that leads nowhere. -/
def notFound (α : Type) : ResponsePart α :=
  .finish ⟨.unimplemented, some "method not found"⟩ .empty

/-- Looks a path up, and answers one that leads nowhere on the transport of the call, which takes
parts by `send`. -/
def dispatch {T α : Type} (send : T → ResponsePart α → T) (server : Server K R) (path : String)
    (transport : T) : Option (R × K) × T :=
  match server.handle? path with
  | some route => (some route, transport)
  | none => (none, send transport (notFound α))

def serviceNames (server : Server K R) : List String :=
  (server.services.map Prod.fst).mergeSort (fun a b => a ≤ b)

/-- The description of server settings. -/
def configText (config : ServerConfig) : String :=
  Text.fullRecord "ServerConfig" [("compression_enabled", Text.truth config.compression)]

def text (server : Server K R) : String :=
  Text.fullRecord "Server"
    [("services", Text.listed (server.serviceNames.map Text.quoted)),
      ("config", configText server.config)]

end Server

end RemoteCall
