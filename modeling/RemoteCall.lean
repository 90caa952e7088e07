import RemoteCall.Acceptance
import RemoteCall.CallError
import RemoteCall.CancelScope
import RemoteCall.CellSteps
import RemoteCall.ChainSteps
import RemoteCall.Client.Active
import RemoteCall.Client.Call
import RemoteCall.Client.Forwarder
import RemoteCall.Client.Outcome
import RemoteCall.Client.Steps
import RemoteCall.Codec
import RemoteCall.Decimal.Shortest
import RemoteCall.Description
import RemoteCall.Detached
import RemoteCall.Errand
import RemoteCall.Interceptor
import RemoteCall.Json.Form
import RemoteCall.Json.Reader
import RemoteCall.Json.Value
import RemoteCall.Link
import RemoteCall.Loopback
import RemoteCall.MessageStream
import RemoteCall.Metadata
import RemoteCall.Options
import RemoteCall.Part
import RemoteCall.Poll
import RemoteCall.Proofs.Acceptance
import RemoteCall.Proofs.CancelScope
import RemoteCall.Proofs.CancelScope.Run
import RemoteCall.Proofs.Cancellation
import RemoteCall.Proofs.CellSteps
import RemoteCall.Proofs.Chain.Forwards
import RemoteCall.Proofs.Chain.Nesting
import RemoteCall.Proofs.Chain.Relating
import RemoteCall.Proofs.Chain.Trace
import RemoteCall.Proofs.ChainSteps
import RemoteCall.Proofs.Client.Accumulator
import RemoteCall.Proofs.Client.Cleanup
import RemoteCall.Proofs.Client.Collection
import RemoteCall.Proofs.Client.Completion
import RemoteCall.Proofs.Client.Deadline
import RemoteCall.Proofs.Client.Direct
import RemoteCall.Proofs.Client.EarlyEnd
import RemoteCall.Proofs.Client.Errands
import RemoteCall.Proofs.Client.Event
import RemoteCall.Proofs.Client.FirstOutcome
import RemoteCall.Proofs.Client.Floor
import RemoteCall.Proofs.Client.ForwardedSource
import RemoteCall.Proofs.Client.Forwarding
import RemoteCall.Proofs.Client.Hearing
import RemoteCall.Proofs.Client.History
import RemoteCall.Proofs.Client.Intake
import RemoteCall.Proofs.Client.Isolation
import RemoteCall.Proofs.Client.Opening
import RemoteCall.Proofs.Client.Passages
import RemoteCall.Proofs.Client.Release
import RemoteCall.Proofs.Client.RequestSide
import RemoteCall.Proofs.Client.Requesting
import RemoteCall.Proofs.Client.SendOrder
import RemoteCall.Proofs.Client.SendQueues
import RemoteCall.Proofs.Client.Settlement
import RemoteCall.Proofs.Client.SingleOutcome
import RemoteCall.Proofs.Client.Steps
import RemoteCall.Proofs.Client.StreamOutcome
import RemoteCall.Proofs.Client.StreamSteps
import RemoteCall.Proofs.Client.Termination
import RemoteCall.Proofs.Completion
import RemoteCall.Proofs.Errand
import RemoteCall.Proofs.Line
import RemoteCall.Proofs.Line.Lossless
import RemoteCall.Proofs.Line.Sending
import RemoteCall.Proofs.Link
import RemoteCall.Proofs.Loopback.Cancellation
import RemoteCall.Proofs.Loopback.Carriage
import RemoteCall.Proofs.Loopback.Closing
import RemoteCall.Proofs.Loopback.Conversation
import RemoteCall.Proofs.Loopback.Course
import RemoteCall.Proofs.Loopback.Finish
import RemoteCall.Proofs.Loopback.Invocation
import RemoteCall.Proofs.Loopback.Live
import RemoteCall.Proofs.Loopback.Progress
import RemoteCall.Proofs.Loopback.Run
import RemoteCall.Proofs.Loopback.Sides
import RemoteCall.Proofs.Loopback.Transparency
import RemoteCall.Proofs.MessageStream
import RemoteCall.Proofs.MessageStream.Queue
import RemoteCall.Proofs.Metadata
import RemoteCall.Proofs.ResponseOrder
import RemoteCall.Proofs.ResponseOrder.Normal
import RemoteCall.Proofs.Routine
import RemoteCall.Proofs.Server.Aftermath
import RemoteCall.Proofs.Server.Attendance
import RemoteCall.Proofs.Server.CancelSteps
import RemoteCall.Proofs.Server.Cancellation
import RemoteCall.Proofs.Server.Completion
import RemoteCall.Proofs.Server.Conduct
import RemoteCall.Proofs.Server.DirectRun
import RemoteCall.Proofs.Server.Dispatch
import RemoteCall.Proofs.Server.Emission
import RemoteCall.Proofs.Server.Event
import RemoteCall.Proofs.Server.Floor
import RemoteCall.Proofs.Server.Gate
import RemoteCall.Proofs.Server.Handover
import RemoteCall.Proofs.Server.Incidents
import RemoteCall.Proofs.Server.LateWrite
import RemoteCall.Proofs.Server.LossSteps
import RemoteCall.Proofs.Server.Lost
import RemoteCall.Proofs.Server.Orderly
import RemoteCall.Proofs.Server.Record
import RemoteCall.Proofs.Server.Reentry
import RemoteCall.Proofs.Server.Rejection
import RemoteCall.Proofs.Server.Reply
import RemoteCall.Proofs.Server.ReplySteps
import RemoteCall.Proofs.Server.Returning
import RemoteCall.Proofs.Server.Routing
import RemoteCall.Proofs.Server.Silence
import RemoteCall.Proofs.Server.SingleRequest
import RemoteCall.Proofs.Server.Steps
import RemoteCall.Proofs.Server.StreamedRequest
import RemoteCall.Proofs.Server.TaskMoves
import RemoteCall.Proofs.Server.TrailingParts
import RemoteCall.Proofs.Server.Wire
import RemoteCall.Proofs.WriteOnce
import RemoteCall.ResponseOrder
import RemoteCall.Routine
import RemoteCall.Server.Call
import RemoteCall.Server.Handler
import RemoteCall.Server.Routing
import RemoteCall.Server.Serving
import RemoteCall.Server.Steps
import RemoteCall.Session.Circuit
import RemoteCall.Session.Describe
import RemoteCall.Session.Hooks
import RemoteCall.Session.ManualTransport
import RemoteCall.Session.Notebook
import RemoteCall.Session.Registry
import RemoteCall.Session.Run
import RemoteCall.Session.Script
import RemoteCall.Session.Step
import RemoteCall.Status
import RemoteCall.Text.Blank
import RemoteCall.Text.Printable
import RemoteCall.Text.Quoted
import RemoteCall.Text.Utf8
import RemoteCall.UserInfo
import RemoteCall.WriteOnce
