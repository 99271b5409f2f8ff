import PrintProxy.Operation

/-!
# Tickets

A ticket states what a client wants: an operation with what it needs, and
details that may be left out.  `Ticket.operation` turns it into the operation's
template with the stated changes, in the order in which they are stated.
-/

namespace PrintProxy

/-- A detail of a document printed as one job. -/
inductive PrintDetail where
  | userName (user : String)
  | jobTitle (title : String)
  | documentName (name : String)
  | jobAttribute (attr : Attribute)
deriving DecidableEq, Repr

/-- A detail of a job whose documents follow. -/
inductive JobDetail where
  | userName (user : String)
  | jobTitle (title : String)
  | jobAttribute (attr : Attribute)
deriving DecidableEq, Repr

/-- A detail of a document for a job. -/
inductive DocumentDetail where
  | userName (user : String)
  | documentName (name : String)
  | isLast (truth : Bool)
deriving DecidableEq, Repr

/-- What a client wants. -/
inductive Ticket where
  | printJob (printer : Uri) (data : Bytes) (details : List PrintDetail)
  | createJob (printer : Uri) (details : List JobDetail)
  | sendDocument (printer : Uri) (jobId : Int32) (data : Bytes) (details : List DocumentDetail)
  | cancelJob (printer : Uri) (jobId : Int32) (userNames : List String)
  | getJobs (printer : Uri) (userNames : List String)
  /-- Without names of attributes, the whole description is asked for. -/
  | getPrinterAttributes (printer : Uri) (names : List String)
  | getPrinters
  | getDefault
deriving DecidableEq, Repr

def PrintDetail.change : PrintDetail → Operation.Change
  | .userName user => .requestingUserName user
  | .jobTitle title => .jobName title
  | .documentName name => .documentName name
  | .jobAttribute attr => .jobAttribute attr

def JobDetail.change : JobDetail → Operation.Change
  | .userName user => .requestingUserName user
  | .jobTitle title => .jobName title
  | .jobAttribute attr => .jobAttribute attr

def DocumentDetail.change : DocumentDetail → Operation.Change
  | .userName user => .requestingUserName user
  | .documentName name => .documentName name
  | .isLast truth => .lastDocument truth

namespace Ticket

def kind : Ticket → OperationKind
  | printJob .. => .printJob
  | createJob .. => .createJob
  | sendDocument .. => .sendDocument
  | cancelJob .. => .cancelJob
  | getJobs .. => .getJobs
  | getPrinterAttributes .. => .getPrinterAttributes
  | getPrinters => .getPrinters
  | getDefault => .getDefault

def changes : Ticket → List Operation.Change
  | printJob printer data details =>
      [.printerUri printer, .data data] ++ details.map PrintDetail.change
  | createJob printer details => [.printerUri printer] ++ details.map JobDetail.change
  | sendDocument printer jobId data details =>
      [.printerUri printer, .jobId jobId, .data data] ++ details.map DocumentDetail.change
  | cancelJob printer jobId userNames =>
      [.printerUri printer, .jobId jobId] ++ userNames.map .requestingUserName
  | getJobs printer userNames => [.printerUri printer] ++ userNames.map .requestingUserName
  | getPrinterAttributes printer names =>
      [.printerUri printer] ++ (if names.isEmpty then [] else [.requestedAttributes names])
  | getPrinters | getDefault => []

/-- The operation that a user's ticket asks for. -/
def operation (ticket : Ticket) (user : String) : Operation :=
  (Operation.new ticket.kind user).applyAll ticket.changes

end Ticket

end PrintProxy
