import PrintProxy.Bytes
import PrintProxy.Text.Numeral
import PrintProxy.Text.Utf8
import PrintProxy.WireFault
import PrintProxy.DelimiterTag
import PrintProxy.ValueTag
import PrintProxy.Version
import PrintProxy.OperationCode
import PrintProxy.Status
import PrintProxy.JobState
import PrintProxy.PrinterState
import PrintProxy.Value
import PrintProxy.Value.Text
import PrintProxy.Header
import PrintProxy.Uri.Fault
import PrintProxy.Uri.Authority
import PrintProxy.Uri
import PrintProxy.Uri.Derived
import PrintProxy.Fault
import PrintProxy.Attribute
import PrintProxy.Attributes
import PrintProxy.AttributeName
import PrintProxy.Message
import PrintProxy.Wire.Read
import PrintProxy.Wire.Field
import PrintProxy.Wire.Decode
import PrintProxy.Wire.Encode
import PrintProxy.Operation.Kind
import PrintProxy.Operation
import PrintProxy.Operation.Response
import PrintProxy.Operation.Ticket
import PrintProxy.UserName
import PrintProxy.IpAddress
import PrintProxy.FileTree
import PrintProxy.ForwardTarget
import PrintProxy.Config
import PrintProxy.Record
import PrintProxy.Dispatcher
import PrintProxy.Dispatcher.Storage
import PrintProxy.Dispatcher.Submit
import PrintProxy.Http.Exchange
import PrintProxy.Http.Post
import PrintProxy.Json
import PrintProxy.Json.Label
import PrintProxy.Json.Message
import PrintProxy.Json.Config
import PrintProxy.CommandLine.Words
import PrintProxy.CommandLine
import PrintProxy.CommandLine.Run
import PrintProxy.Main
import PrintProxy.Proofs.Outcome
import PrintProxy.Proofs.Wire.Repetition
import PrintProxy.Proofs.Wire.Spelling
import PrintProxy.Proofs.Wire.Fields
import PrintProxy.Proofs.Wire.Exactness
import PrintProxy.Proofs.Wire.MoreInput
import PrintProxy.Proofs.Wire.RoundTrip
import PrintProxy.Proofs.Wire.Transmissible
import PrintProxy.Proofs.Wire.Limits
import PrintProxy.Proofs.Wire.Absorption
import PrintProxy.Proofs.Wire.Completion
import PrintProxy.Proofs.Message.Building
import PrintProxy.Proofs.Text.Numeral
import PrintProxy.Proofs.Text.Decimal
import PrintProxy.Proofs.Uri.Length
import PrintProxy.Proofs.Uri.PrinterName
import PrintProxy.Proofs.Uri.Rendering
import PrintProxy.Proofs.Uri.Port
import PrintProxy.Proofs.Uri.HttpForm
import PrintProxy.Proofs.Uri.Host
import PrintProxy.Proofs.Uri.DefaultPort
import PrintProxy.Proofs.ForwardTarget
import PrintProxy.Proofs.IpAddress
import PrintProxy.Proofs.Config
import PrintProxy.Proofs.PrinterUri
import PrintProxy.Proofs.Message.Explanation
import PrintProxy.Proofs.Operation.Response
import PrintProxy.Proofs.Dispatcher.LocalAnswer
import PrintProxy.Proofs.Http.LocalExchange
import PrintProxy.Proofs.Value.RoundTrip
import PrintProxy.Proofs.Value.Reading
import PrintProxy.Proofs.Value.Literal
import PrintProxy.Proofs.Attributes.Lookup
import PrintProxy.Proofs.Attributes.Placement
import PrintProxy.Proofs.Attributes.History
import PrintProxy.Proofs.Message.Getters
import PrintProxy.Proofs.Message.Setting
import PrintProxy.Proofs.Operation.Composition
import PrintProxy.Proofs.Operation.Frame
import PrintProxy.Proofs.Operation.JobReport
import PrintProxy.Proofs.Operation.Arrival
import PrintProxy.Proofs.Operation.Template
import PrintProxy.Proofs.Dispatcher.LocalStep
import PrintProxy.Proofs.Dispatcher.Transcript
import PrintProxy.Proofs.Dispatcher.JobNumbering
import PrintProxy.Proofs.Dispatcher.TicketRun
import PrintProxy.Proofs.Dispatcher.Relay
import PrintProxy.Proofs.Dispatcher.Verdict
import PrintProxy.Proofs.Http.RelayExchange
import PrintProxy.Proofs.Uri.JobUri
import PrintProxy.Proofs.Dispatcher.Independence
import PrintProxy.Proofs.Dispatcher.JobAddress
import PrintProxy.Proofs.Dispatcher.Advertising
import PrintProxy.Proofs.Dispatcher.PrinterNaming
import PrintProxy.Proofs.Record
import PrintProxy.Proofs.FileTree
import PrintProxy.Proofs.Dispatcher.Recording
