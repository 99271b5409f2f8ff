import PrintProxy.Config
import PrintProxy.Operation.Response
import PrintProxy.Record

/-!
# Dispatching requests

A dispatcher gives every request of its own a fresh id and delivers it to the
server that is its target, or answers it itself if its target is a directory.
`send` does this with an operation; `handle` answers a request that comes from
elsewhere, whose id the answer repeats.

What a dispatcher remembers between requests is a `State`.  A server is a
function of all that has been delivered to it, so `send` and `handle` are pure
steps from one state to the next.
-/

namespace PrintProxy

/-- A request on its way to a server. -/
structure Delivery where
  destination : Uri
  request : Message
deriving DecidableEq, Repr

/-- What comes back for a delivery, given the deliveries before it. -/
abbrev Transport := List Delivery → Delivery → Except Fault Message

/-- What stays the same from request to request. -/
structure Dispatcher where
  target : ForwardTarget
  printerName : String
  /-- Whether requests and responses are kept in the target's directory. -/
  recording : Bool
  transport : Transport

namespace Dispatcher

/-- What a dispatcher remembers. -/
structure State where
  /-- The id of the next request that goes out. -/
  nextRequestId : Int32 := 1
  /-- The id of the job made last. -/
  lastJobId : Int32 := 0
  /-- What has been delivered, oldest first. -/
  deliveries : List Delivery := []
  /-- What has been recorded. -/
  records : List Record := []
deriving DecidableEq, Repr

def ofConfig (config : Config) (transport : Transport) : Dispatcher :=
  { target := config.target
    printerName := config.printerName
    recording := config.recording
    transport }

/-- Records a message, if messages are recorded and it can be. -/
def keep (dispatcher : Dispatcher) (kind : String) (message : Message) (state : State) : State :=
  if dispatcher.recording && dispatcher.target.isLocal then
    match message.record kind with
    | .ok record => { state with records := keepRecord state.records record }
    | .error _ => state
  else state

/-- Where a request for a server goes: to the printer that it names, at the server's port if that
printer has none, or else to the server itself. -/
def destination (server : Uri) (request : Message) : Uri :=
  match request.printerUri with
  | .ok printer => printer.withDefaultPort server.port?
  | .error _ => server

/-- Delivers a request and takes what comes back.  A failure becomes a response that reports it. -/
def forward (dispatcher : Dispatcher) (server : Uri) (request : Message) (state : State) :
    Message × State :=
  let delivery : Delivery := ⟨destination server request, request⟩
  let response :=
    match dispatcher.transport state.deliveries delivery with
    | .ok response => response
    | .error fault => request.errorFor .serverErrorInternalError fault.message
  (response, { state with deliveries := state.deliveries ++ [delivery] })

/-- The printer that is advertised to the sender of a request. -/
def advertisedPrinter (dispatcher : Dispatcher) (request : Message) : Except UriFault Uri :=
  let authority :=
    match request.printerUri with
    | .ok printer => printer.authority
    | .error _ => none
  let server := (authority.map Authority.text).getD "localhost:631"
  let name := dispatcher.printerName
  Uri.parse s!"ipp://{server}/printers/{name}"

/-- Names the advertised printer in an operation that names none. -/
def advertise (dispatcher : Dispatcher) (operation : Operation) : Operation :=
  if operation.printers.isEmpty then
    match dispatcher.advertisedPrinter operation.request with
    | .ok printer => operation.apply (.printer printer)
    | .error _ => operation
  else operation

end Dispatcher

/-- Whether an operation makes a job. -/
def OperationKind.makesJob : OperationKind → Bool
  | .printJob | .createJob | .sendDocument => true
  | .cancelJob | .getJobs | .getPrinterAttributes | .getPrinters | .getDefault => false

namespace Dispatcher

/-- Decides what is to be answered.  An operation that makes a job makes the one with the given id;
one that asks for printers is told of the advertised printer. -/
def settle (dispatcher : Dispatcher) (jobId : Int32) (operation : Operation) : Operation :=
  match operation.kind with
  | .printJob | .sendDocument => operation.applyAll [.jobId jobId, .jobStateReason .none]
  | .createJob =>
      operation.applyAll
        [.jobId jobId, .jobState .pendingHeld, .jobStateReason .jobIncoming]
  | .getPrinters | .getDefault => dispatcher.advertise operation
  | .cancelJob | .getJobs | .getPrinterAttributes => operation

/-- The answer to an operation whose request has the operation's code. -/
def answer (operation : Operation) : Message :=
  match operation.validateRequest operation.request with
  | .ok _ => operation.response
  | .error fault => operation.request.errorFor .clientErrorBadRequest fault.message

def emulate (dispatcher : Dispatcher) (operation : Operation) (state : State) : Message × State :=
  let jobId := state.lastJobId + 1
  (answer (dispatcher.settle jobId operation),
    if operation.kind.makesJob then { state with lastJobId := jobId } else state)

def stamp (request : Message) (state : State) : Message × State :=
  (request.setRequestId state.nextRequestId,
    { state with nextRequestId := state.nextRequestId + 1 })

/-- Gives an operation's request the next id, and has it answered by the target. -/
def send (dispatcher : Dispatcher) (operation : Operation) (state : State) : Message × State :=
  let (request, stamped) := stamp operation.request state
  let operation := { operation with request }
  let recorded := dispatcher.keep "request" request stamped
  let (response, answered) :=
    match dispatcher.target with
    | .directory _ => dispatcher.emulate operation recorded
    | .server uri => dispatcher.forward uri request recorded
  (response, dispatcher.keep "response" response answered)

/-- Answers a request without support: a server may know what it is. -/
def handleUnsupported (dispatcher : Dispatcher) (request : Message) (state : State) :
    Message × State :=
  match dispatcher.target with
  | .server uri =>
      let (request, stamped) := stamp request state
      dispatcher.forward uri request stamped
  | .directory _ =>
      let code := Numeral.hex 4 request.header.code.toNat
      (request.errorFor .serverErrorOperationNotSupported s!"operation 0x{code} is not supported",
        state)

/-- Answers a supported operation.  What is asked about the proxy's own printers is never
delivered, and a request about a job has to name it. -/
def handleOperation (dispatcher : Dispatcher) (operation : Operation) (state : State) :
    Message × State :=
  match operation.kind.addressee with
  | .nothing => dispatcher.emulate operation state
  | .printer => dispatcher.send operation state
  | .job =>
      match operation.validateTarget operation.request with
      | .ok _ => dispatcher.send operation state
      | .error fault =>
          (operation.request.errorFor .clientErrorBadRequest fault.message, state)

/-- Answers a request from elsewhere under the id that it came with. -/
def handle (dispatcher : Dispatcher) (request : Message) (state : State) : Message × State :=
  let (response, next) :=
    match OperationKind.ofCode? request.header.code with
    | none => dispatcher.handleUnsupported request state
    | some kind => dispatcher.handleOperation (.carrying kind request) state
  (response.setRequestId request.header.requestId, next)

end Dispatcher

end PrintProxy
