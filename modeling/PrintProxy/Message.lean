import PrintProxy.AttributeName
import PrintProxy.Attributes
import PrintProxy.JobState

/-!
# Messages

A request or a response: a header, attribute groups and the payload behind
them.  Both have one form; the header's code tells them apart.  The typed
setters put an attribute into the group where the protocol wants it, the typed
getters look an attribute up by its name in all groups.
-/

namespace PrintProxy

/-- A request or a response. -/
structure Message where
  header : Header
  attributes : Attributes
  payload : Bytes
deriving DecidableEq, Repr

namespace Message

def setRequestId (message : Message) (requestId : Int32) : Message :=
  { message with header := { message.header with requestId } }

def setStatus (message : Message) (status : Status) : Message :=
  { message with header := { message.header with code := status.code } }

def setPayload (message : Message) (payload : Bytes) : Message := { message with payload }

/-- Adds an attribute to the first group of a delimiter. -/
def add (message : Message) (tag : DelimiterTag) (attr : Attribute) : Message :=
  { message with attributes := message.attributes.add tag attr }

def setOperationAttribute (message : Message) (attr : Attribute) : Message :=
  message.add .operationAttributes attr

def setJobAttribute (message : Message) (attr : Attribute) : Message :=
  message.add .jobAttributes attr

def setPrinterAttribute (message : Message) (attr : Attribute) : Message :=
  message.add .printerAttributes attr

def setPrinterUri (message : Message) (uri : Uri) : Message :=
  message.setOperationAttribute (.ofValue AttributeName.printerUri (.uri uri.render))

/-- Names the job that a job operation is about. -/
def setJobId (message : Message) (jobId : Int32) : Message :=
  message.setOperationAttribute (.ofValue AttributeName.jobId (.integer jobId))

def setStatusMessage (message : Message) (text : String) : Message :=
  message.setOperationAttribute (.ofValue AttributeName.statusMessage (.textWithoutLanguage text))

def setJobUri (message : Message) (uri : Uri) : Message :=
  message.setJobAttribute (.ofValue AttributeName.jobUri (.uri uri.render))

def setJobState (message : Message) (state : JobState) : Message :=
  message.setJobAttribute (.ofValue AttributeName.jobState (.enum state.number))

def setJobStateReason (message : Message) (reason : JobStateReason) : Message :=
  message.setJobAttribute (.ofValue AttributeName.jobStateReasons (.keyword reason.keyword))

def pushGroup (message : Message) (group : AttributeGroup) : Message :=
  { message with attributes := message.attributes.pushGroup group }

/-- A message that states the charset and the language of its texts, as every message must. -/
def stating (header : Header) : Message :=
  ({ header, attributes := .empty, payload := [] } : Message)
    |>.setOperationAttribute (.ofValue AttributeName.attributesCharset (.text .charset "utf-8"))
    |>.setOperationAttribute
      (.ofValue AttributeName.attributesNaturalLanguage (.text .naturalLanguage "en"))

/-- A request, addressed to a printer if one is given. -/
def request (version : Version) (operation : OperationCode) (printer : Option Uri) : Message :=
  let bare := stating ⟨version, operation.code, 1⟩
  match printer with
  | some uri => bare.setPrinterUri uri
  | none => bare

/-- A response without any content of its own. -/
def response (version : Version) (status : Status) (requestId : Int32) : Message :=
  stating ⟨version, status.code, requestId⟩

/-- The successful response to a request that repeats its groups. -/
def responseFor (request : Message) : Message :=
  { header := { request.header with code := Status.successfulOk.code }
    attributes := request.attributes
    payload := [] }

/-- The response that reports a failure of a request. -/
def errorFor (request : Message) (status : Status) (explanation : String) : Message :=
  (response request.header.version status request.header.requestId).setStatusMessage explanation

def attribute? (message : Message) (name : String) : Option Attribute :=
  message.attributes.get? name

def hasAttribute (message : Message) (name : String) : Bool := (message.attribute? name).isSome

/-- The first attribute with a name, demanded. -/
def getAttribute (message : Message) (name : String) : Except Fault Attribute :=
  match message.attribute? name with
  | some attr => .ok attr
  | none => .error (.attributeNotFound name)

def printerUri (message : Message) : Except Fault Uri :=
  message.getAttribute AttributeName.printerUri >>= Attribute.uri

def jobUri (message : Message) : Except Fault Uri :=
  message.getAttribute AttributeName.jobUri >>= Attribute.uri

def jobId (message : Message) : Except Fault Int32 :=
  message.getAttribute AttributeName.jobId >>= Attribute.int

def jobState (message : Message) : Except Fault JobState := do
  let attr ← message.getAttribute AttributeName.jobState
  let number ← attr.int
  match JobState.ofNumber? number with
  | some state => return state
  | none => .error (.invalidAttributeType attr.name)

def jobStateReason (message : Message) : Except Fault JobStateReason := do
  let attr ← message.getAttribute AttributeName.jobStateReasons
  return JobStateReason.ofKeyword attr.string

def statusMessage? (message : Message) : Option String :=
  (message.attribute? AttributeName.statusMessage).map Attribute.string

/-- The header and how much there is of everything else. -/
def render (message : Message) : String :=
  let header := message.header.render
  let groups := Numeral.decimal message.attributes.groups.length
  let attributes := Numeral.decimal message.attributes.size
  let octets := Numeral.decimal message.payload.length
  s!"{header}{groups} groups|{attributes} attributes|{octets} bytes of data|"

/-- The header, every group with every value, and the size of the payload. -/
def renderAll (message : Message) : String :=
  let groupLines (group : AttributeGroup) : List String :=
    group.tag.name :: group.attributes.map fun attr => "\t" ++ attr.renderAll
  let octets := Numeral.decimal message.payload.length
  "\n".intercalate
    (message.header.render :: message.attributes.groups.flatMap groupLines ++
      [octets ++ " bytes of data"])

end Message

end PrintProxy
