import RemoteCall.Description
import RemoteCall.Session.Registry

/-!
# Describing a server

The descriptions of a server, of its services and of their routes, and of a client with default
options in front of it.
-/

namespace RemoteCall.Session

/-- A route, also one that was replaced. -/
def RouteSpec.form (route : RouteSpec) : Json.Value :=
  let size := (HookSpec.serverChain route.hooks).size
  .object
    [("call_type", .string route.shape.label),
      ("debug", .string (Description.route route.shape size)),
      ("hooks", .array
        [Json.ofNat size, .bool (size == 0), .string (Description.chain size)])]

def ServiceSpec.form (service : ServiceSpec) : Json.Value :=
  .object
    [("name", .string service.name),
      ("methods", .array (service.router.methodNames.map .string)),
      ("debug", .string service.router.text),
      ("routes", .array (service.routes.map RouteSpec.form))]

/-- A server, its services, and a client in front of it. -/
def ServerSpec.form (spec : ServerSpec) (defaults : CallOptions) : Json.Value :=
  .object
    [("services", .array (spec.services.map ServiceSpec.form)),
      ("server", .string spec.server.text),
      ("compression", .bool spec.server.config.compression),
      ("channel", .string (Description.channel spec.server)),
      ("client", .string (Description.client defaults))]

end RemoteCall.Session
