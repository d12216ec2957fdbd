import RpcContracts.Async.Cancellation
import RpcContracts.Async.Channel
import RpcContracts.Async.Future
import RpcContracts.Async.History
import RpcContracts.Async.Memory
import RpcContracts.Async.Poll
import RpcContracts.Async.Pump
import RpcContracts.Async.Stream
import RpcContracts.Async.Transform
import RpcContracts.Async.ValueTask
import RpcContracts.Async.Writer
import RpcContracts.Cache.Once
import RpcContracts.Cache.Plan
import RpcContracts.Call.Capture
import RpcContracts.Call.Context
import RpcContracts.Call.Description
import RpcContracts.Call.Error
import RpcContracts.Call.Metadata
import RpcContracts.Call.Options
import RpcContracts.Call.Status
import RpcContracts.Client.Call
import RpcContracts.Client.Outcome
import RpcContracts.Client.Registry
import RpcContracts.Client.Response
import RpcContracts.Client.Table
import RpcContracts.Contract.Annotation
import RpcContracts.Contract.Description
import RpcContracts.Contract.Log
import RpcContracts.Contract.Name
import RpcContracts.Contract.Reference
import RpcContracts.Contract.Service
import RpcContracts.Contract.Shape
import RpcContracts.Contract.Signature
import RpcContracts.Contract.Type
import RpcContracts.Hash.Xxh3
import RpcContracts.Marshal.Cache
import RpcContracts.Marshal.Marshaller
import RpcContracts.Payload.Basic
import RpcContracts.Payload.Message
import RpcContracts.Payload.Type
import RpcContracts.Proofs.Client.Calls
import RpcContracts.Proofs.Contract.Classification
import RpcContracts.Proofs.Contract.Inspection
import RpcContracts.Proofs.Marshal.Resolution
import RpcContracts.Proofs.Server.Adapters
import RpcContracts.Proofs.Server.Bindings
import RpcContracts.Proofs.Value.Assembly
import RpcContracts.Sample.Contracts
import RpcContracts.Sample.Scripted
import RpcContracts.Sample.Services
import RpcContracts.Server.Binder
import RpcContracts.Server.Binding
import RpcContracts.Server.Description
import RpcContracts.Server.Handler
import RpcContracts.Server.Host
import RpcContracts.Server.Implementation
import RpcContracts.Server.Loopback
import RpcContracts.Session.Answer
import RpcContracts.Session.Arguments
import RpcContracts.Session.Cache
import RpcContracts.Session.Cancellation
import RpcContracts.Session.Channel
import RpcContracts.Session.Client
import RpcContracts.Session.Handle
import RpcContracts.Session.Handler
import RpcContracts.Session.Host
import RpcContracts.Session.Loopback
import RpcContracts.Session.Outcome
import RpcContracts.Session.Registry
import RpcContracts.Session.Serve
import RpcContracts.Session.Stream
import RpcContracts.Session.ValueTask
import RpcContracts.Text.Blank
import RpcContracts.Text.Decimal
import RpcContracts.Text.Escaped
import RpcContracts.Text.Hex
import RpcContracts.Text.Quoted
import RpcContracts.Text.Structure
import RpcContracts.Text.Uppercase
import RpcContracts.Text.Utf8
import RpcContracts.Value.Arguments
import RpcContracts.Value.Basic
import RpcContracts.Wire.Field
import RpcContracts.Wire.Message
import RpcContracts.Wire.Varint
import RpcContracts.Proofs.Client.Dispatch
import RpcContracts.Proofs.Wire.Agreement
import RpcContracts.Proofs.Async.Runs
import RpcContracts.Proofs.Client.Reports
import RpcContracts.Proofs.Client.SingleResponse
import RpcContracts.Proofs.Client.Captures
import RpcContracts.Proofs.Client.SharedContext
import RpcContracts.Proofs.Client.StreamedResponses
import RpcContracts.Proofs.Server.Pumping
import RpcContracts.Proofs.Server.Requests
import RpcContracts.Proofs.Server.Interruption
import RpcContracts.Proofs.Async.Findings
import RpcContracts.Proofs.Client.Cancellations
import RpcContracts.Proofs.Client.Statuses
import RpcContracts.Proofs.Server.Routing
import RpcContracts.Proofs.Server.ClassContracts
import RpcContracts.Proofs.Wire.Sharing
import RpcContracts.Proofs.Cache.BuiltOnce
import RpcContracts.Proofs.Contract.Forms
import RpcContracts.Proofs.Wire.Stability
import RpcContracts.Proofs.Client.CapturedStreams
import RpcContracts.Proofs.Client.Completions
import RpcContracts.Proofs.Wire.RoundTrip
import RpcContracts.Proofs.Async.Settling
import RpcContracts.Proofs.Client.ReturnForms
import RpcContracts.Proofs.Client.Forwarding
import RpcContracts.Proofs.Server.PumpProgress
import RpcContracts.Proofs.Server.WrittenResponses
import RpcContracts.Proofs.Contract.Exposure
import RpcContracts.Proofs.Async.Races
import RpcContracts.Proofs.Marshal.Remembered
import RpcContracts.Proofs.Client.Refusals
import RpcContracts.Proofs.Server.Deliveries
import RpcContracts.Proofs.Client.FirstErrors
import RpcContracts.Proofs.Async.ValueTasks
import RpcContracts.Proofs.Contract.Names
import RpcContracts.Proofs.Call.MetadataReads
import RpcContracts.Proofs.Value.Erasure
