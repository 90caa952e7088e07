import RemoteCall.Proofs.Client.Completion
import RemoteCall.Proofs.Server.Completion

/-!
# Sends complete when their parts are accepted

A send of a client and a write of a server complete by how the acceptances of those parts stand that
reach the transport, and by nothing else: neither the order in which they are settled matters, nor
when they are looked at.
-/

namespace RemoteCall

/-- A batch of a client, or a message of a server, that is not refused completes by the acceptances
of the parts that reach the transport. The same is told by a sender that takes its acceptances off
one after the other, however often it is polled meanwhile. -/
theorem sends_complete_when_accepted :
    (∀ {σ P Req Resp : Type} (a : Client.Active σ P Req Resp) parts receipts p,
      a.call.send a.setup parts = (.ok receipts, p) → a.SendCompletes parts receipts p) ∧
    (∀ {σ P Req Resp S : Type} (s : Server.Serving σ P Req Resp S) message wish receipts p,
      s.call.write s.method s.compression message wish = (.ok receipts, p) →
        s.WriteCompletes message wish receipts p) ∧
    ∀ polls last, (polls ++ [last]).Pairwise Signal.GoesOn →
      ∀ receipts, Receipt.Tells last receipts (Receipt.awaitPolls (polls ++ [last]) receipts) := by
  refine ⟨fun _ _ _ _ => Client.Active.send_completes,
    fun _ _ _ _ _ => Server.Serving.write_completes, fun polls last goesOn receipts => ?_⟩
  rw [Receipt.awaitPolls_eq goesOn]
  exact Receipt.tells_awaitAll last receipts

namespace Doubling

/-- Texts as they are, except for one that has no encoding. -/
def choosy : Codec String String where
  encode text := if text = "bad" then .error (.codec "unencodable") else .ok text
  decode := .ok

/-- Sends everything twice. -/
def twice {Out In : Type} : Interceptor Unit Out In where
  outbound _ part := .send part (.send part .done)

/-- A call that has sent its headers, twice. -/
def caller : Client.Active Unit String String String :=
  (Client.Active.start
    { path := "/s.S/Do"
      shape := .bidirectional
      chain := { interceptors := [twice] }
      requests := choosy
      responses := choosy } () 0 (.ok ()) none).1

/-- A call that has sent nothing. -/
def served : Server.Serving Unit String String String Unit :=
  .fresh
    { shape := .bidirectional
      chain := { interceptors := [twice] }
      requests := choosy
      responses := choosy }
    { start := fun _ _ => (), wish := fun _ => .finish (.ok none) } false "/s.S/Do" ()

/-- A text that is sent twice has to be accepted twice, and one that has no encoding fails its
send. Of the headers that go ahead of a message twice, the order filter leaves one. -/
theorem doubled_sends_complete :
    let receipts := [.issued 2, .issued 3, .known (.error (.codec "unencodable")),
      .known (.error (.codec "unencodable"))]
    (∃ p, caller.SendCompletes [.message "good" {}, .message "bad" {}] receipts p) ∧
      (∃ p, served.WriteCompletes "good" .deferred [.issued 0, .issued 1, .issued 2] p) ∧
      Receipt.Tells (fun _ => .settled (.ok ())) receipts
        (some (.error (.codec "unencodable"))) := by
  refine ⟨⟨_, sends_complete_when_accepted.1 caller _ _ _ rfl⟩,
    ⟨_, sends_complete_when_accepted.2.1 served _ _ _ _ rfl⟩, ?_⟩
  exact sends_complete_when_accepted.2.2 [fun _ => .waiting] _ (by simp [Signal.GoesOn]) _

end Doubling

end RemoteCall
