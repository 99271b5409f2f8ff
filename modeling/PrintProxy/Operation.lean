import PrintProxy.Operation.Kind
import PrintProxy.PrinterState
import PrintProxy.Uri.Derived
import PrintProxy.Wire.Decode

/-!
# Operations

An operation is a request together with what the proxy decides about its
answer: the state of the job and the reason for it, and the printers to be
named.  A new operation starts from the template of its kind; a received request
is taken as it is.

`Change` lists everything that can be changed about an operation, so that a
sequence of changes is a list.
-/

namespace PrintProxy

/-- A request and what is decided about its answer. -/
structure Operation where
  kind : OperationKind
  request : Message
  jobState : Option JobState
  jobStateReason : Option JobStateReason
  /-- The printers that answers about printers name. -/
  printers : List Uri
deriving DecidableEq, Repr

/-- What a request for the jobs of a printer asks about each. -/
def requestedJobAttributes : List String :=
  [AttributeName.jobId, AttributeName.jobImpressionsCompleted,
    AttributeName.jobMediaSheetsCompleted, AttributeName.jobName,
    AttributeName.jobOriginatingUserName, AttributeName.jobState, AttributeName.jobStateReasons]

/-- What a request for the description of a printer asks about it. -/
def requestedPrinterAttributes : List String :=
  [AttributeName.copiesSupported, AttributeName.pageRangesSupported, AttributeName.printerName,
    AttributeName.printerInfo, AttributeName.printerLocation, AttributeName.printerMakeAndModel,
    AttributeName.printerUriSupported, AttributeName.mediaSupported, AttributeName.mediaDefault,
    AttributeName.sidesSupported, AttributeName.sidesDefault,
    AttributeName.orientationRequestedSupported, AttributeName.printerResolutionSupported,
    AttributeName.printerResolutionDefault, AttributeName.numberUpDefault,
    AttributeName.numberUpSupported, AttributeName.documentFormatSupported,
    AttributeName.printColorModeSupported, AttributeName.printColorModeDefault]

/-- What a request for the default printer asks about it. -/
def requestedDefaultAttributes : List String :=
  [AttributeName.printerName, AttributeName.printerUriSupported, AttributeName.printerLocation]

/-- Where a request for the default printer is addressed. -/
def defaultPrinters : Uri := ⟨some "http", some ⟨"localhost:631"⟩, "/printers", none⟩

namespace Message

def setRequestingUserName (message : Message) (user : String) : Message :=
  message.setOperationAttribute
    (.ofValue AttributeName.requestingUserName (.nameWithoutLanguage user))

def setRequestedAttributes (message : Message) (names : List String) : Message :=
  message.setOperationAttribute (.ofTexts .keyword AttributeName.requestedAttributes names)

def setLastDocument (message : Message) (last : Bool) : Message :=
  message.setOperationAttribute (.ofValue AttributeName.lastDocument (.boolean last))

/-- States how a job is to be printed unless it says otherwise. -/
def setJobDefaults (message : Message) : Message :=
  message
    |>.setJobAttribute (.ofValue AttributeName.copies (.integer 1))
    |>.setJobAttribute
      (.ofValue AttributeName.orientationRequested (.enum Orientation.portrait.number))
    |>.setJobAttribute (.ofValue AttributeName.outputMode (.keyword "monochrome"))

end Message

/-- The request that an operation of a kind starts from. -/
def OperationKind.template (kind : OperationKind) (user : String) : Message :=
  let base := (Message.request .current kind.code none).setRequestingUserName user
  match kind with
  | .printJob => base.setJobDefaults
  | .sendDocument => base.setJobDefaults.setLastDocument true
  | .getJobs => base.setRequestedAttributes requestedJobAttributes
  | .getPrinterAttributes => base.setRequestedAttributes requestedPrinterAttributes
  | .getDefault =>
      (base.setRequestedAttributes requestedDefaultAttributes).setPrinterUri defaultPrinters
  | .createJob | .cancelJob | .getPrinters => base

namespace Operation

/-- Takes a request as it is. -/
def carrying (kind : OperationKind) (request : Message) : Operation :=
  { kind, request, jobState := none, jobStateReason := none, printers := [] }

def new (kind : OperationKind) (user : String) : Operation := carrying kind (kind.template user)

/-- The operation with a name, made by a user, if it is supported. -/
def ofCode (operation : OperationCode) (user : String) : Except Fault Operation :=
  match OperationKind.ofCode? operation.code with
  | some kind => .ok (new kind user)
  | none => .error (.refused (.operationNotSupported operation))

/-- The operation that a request is for, if it is supported. -/
def ofRequest (request : Message) : Except Fault Operation :=
  match OperationKind.ofCode? request.header.code with
  | some kind => .ok (carrying kind request)
  | none => .error (.refused (.unsupportedCode request.header))

/-- Something that can be changed about an operation. -/
inductive Change where
  | requestId (requestId : Int32)
  | printerUri (printer : Uri)
  | jobId (jobId : Int32)
  | jobName (name : String)
  | documentName (name : String)
  | requestingUserName (user : String)
  | lastDocument (last : Bool)
  | requestedAttributes (names : List String)
  | data (octets : Bytes)
  | jobAttribute (attr : Attribute)
  | jobState (state : JobState)
  | jobStateReason (reason : JobStateReason)
  | printer (printer : Uri)
deriving DecidableEq, Repr

def onRequest (operation : Operation) (change : Message → Message) : Operation :=
  { operation with request := change operation.request }

def apply (operation : Operation) : Change → Operation
  | .requestId requestId => operation.onRequest (·.setRequestId requestId)
  | .printerUri printer => operation.onRequest (·.setPrinterUri printer)
  | .jobId jobId => operation.onRequest (·.setJobId jobId)
  | .jobName name =>
      operation.onRequest
        (·.setOperationAttribute (.ofValue AttributeName.jobName (.nameWithoutLanguage name)))
  | .documentName name =>
      operation.onRequest
        (·.setOperationAttribute (.ofValue AttributeName.documentName (.nameWithoutLanguage name)))
  | .requestingUserName user => operation.onRequest (·.setRequestingUserName user)
  | .lastDocument last => operation.onRequest (·.setLastDocument last)
  | .requestedAttributes names => operation.onRequest (·.setRequestedAttributes names)
  | .data octets => operation.onRequest (·.setPayload octets)
  | .jobAttribute attr => operation.onRequest (·.setJobAttribute attr)
  | .jobState state => { operation with jobState := some state }
  | .jobStateReason reason => { operation with jobStateReason := some reason }
  | .printer printer => { operation with printers := operation.printers ++ [printer] }

def applyAll (operation : Operation) (changes : List Change) : Operation :=
  changes.foldl apply operation

def validateRequest (operation : Operation) (request : Message) : Except Fault Unit :=
  if request.header.code = operation.kind.code.code then .ok ()
  else .error (.refused (.otherOperation operation.kind.code request.header))

/-- Whether octets are a request with the code of an operation. -/
def validateBytes (operation : Operation) (octets : Bytes) : Except Fault Unit :=
  match Message.decode octets with
  | .ok request => operation.validateRequest request
  | .error fault => .error (.wire fault)

/-- Whether a request names what an operation is about. -/
def validateTarget (operation : Operation) (request : Message) : Except Fault Unit :=
  let namesPrinter := request.hasAttribute AttributeName.printerUri
  match operation.kind.addressee with
  | .nothing => .ok ()
  | .printer =>
      if namesPrinter then .ok () else .error (.refused (.noPrinterUri request.header))
  | .job =>
      if namesPrinter && request.hasAttribute AttributeName.jobId ||
          request.hasAttribute AttributeName.jobUri then .ok ()
      else .error (.refused (.noJob request.header))

def validate (operation : Operation) : Except Fault Unit := do
  operation.validateRequest operation.request
  operation.validateTarget operation.request

/-- The job that the request names. -/
def jobId? (operation : Operation) : Option Int32 := operation.request.jobId.toOption

/-- The operation's name and its request's header. -/
def render (operation : Operation) : String :=
  operation.kind.code.name ++ " " ++ operation.request.header.render

end Operation

end PrintProxy
