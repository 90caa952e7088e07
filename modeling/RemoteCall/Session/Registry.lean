import RemoteCall.Codec
import RemoteCall.Loopback
import RemoteCall.Session.Hooks
import RemoteCall.Session.Script

/-!
# Servers of a session

A server of a session is described by its services and their routes, each with a script for its
handler, interceptors and a codec. `ServerSpec.server` registers them in order.
-/

namespace RemoteCall.Session

/-- A route of a service. -/
structure RouteSpec where
  method : String
  shape : CallShape
  script : List Instruction := []
  codec : Codec Bytes String
  hooks : List HookSpec.Server := []

structure ServiceSpec where
  name : String
  routes : List RouteSpec := []

structure ServerSpec where
  compression : Bool := false
  services : List ServiceSpec := []

abbrev Registry := Server (Codec Bytes String) RouteSpec

/-- The router of a service. Each route is added with its own codec in force. -/
def ServiceSpec.router (service : ServiceSpec) :
    Server.Router (Codec Bytes String) RouteSpec :=
  service.routes.foldl (fun router route => (router.withCodec route.codec).route route.method route)
    { name := service.name, codec := .jsonText }

def ServerSpec.server (spec : ServerSpec) : Registry :=
  spec.services.foldl (fun server service => server.add service.router)
    { config := { compression := spec.compression } }

/-- How calls of a session are served. -/
abbrev SessionTarget := Target Notebook Bytes String String Script

/-- How a route serves its calls. -/
def RouteSpec.target (route : RouteSpec) (codec : Codec Bytes String) : SessionTarget where
  method :=
    { shape := route.shape
      chain := HookSpec.serverChain route.hooks
      requests := codec
      responses := codec }
  handler := Script.handler route.shape route.script

def Registry.target? (server : Registry) (path : String) : Option SessionTarget :=
  (server.handle? path).map fun found => found.1.target found.2

end RemoteCall.Session
