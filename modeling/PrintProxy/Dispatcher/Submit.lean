import PrintProxy.Dispatcher
import PrintProxy.Operation.Ticket

/-!
# Submitting tickets

A user hands in tickets, or files to be printed, and gets back a response that
reports success or the reason why there is none.
-/

namespace PrintProxy

abbrev FileContents := String → Except Fault Bytes

/-- A response, demanded to report success. -/
def Message.checked (response : Message) : Except Fault Message :=
  let status := response.header.status
  if status.isSuccess then .ok response else .error (.status status)

/-- The name that a document has from the path of its file. -/
def documentName (path : String) : String :=
  match Uri.lastSegment path with
  | [] => path
  | name => String.ofList name

namespace Dispatcher

def submit (dispatcher : Dispatcher) (user : String) (ticket : Ticket) (state : State) :
    Except Fault Message × State :=
  let (response, next) := dispatcher.send (ticket.operation user) state
  (response.checked, next)

/-- Makes a job and tells its id. -/
def createJob (dispatcher : Dispatcher) (user : String) (printer : Uri) (state : State) :
    Except Fault Int32 × State :=
  let (response, next) := dispatcher.submit user (.createJob printer []) state
  (response >>= Message.jobId, next)

/-- Submits the ticket for a file's content.  Nothing is sent if there is no such file. -/
def submitFile (dispatcher : Dispatcher) (user : String) (files : FileContents) (path : String)
    (ticket : Bytes → Ticket) (state : State) : Except Fault Message × State :=
  match files path with
  | .error fault => (.error fault, state)
  | .ok data => dispatcher.submit user (ticket data) state

/-- Prints a file as a job of its own. -/
def printFile (dispatcher : Dispatcher) (user : String) (files : FileContents) (printer : Uri)
    (path : String) (state : State) : Except Fault Message × State :=
  let name := documentName path
  dispatcher.submitFile user files path
    (fun data => .printJob printer data [.jobTitle name, .documentName name]) state

def sendFile (dispatcher : Dispatcher) (user : String) (files : FileContents) (printer : Uri)
    (jobId : Int32) (path : String) (last : Bool) (state : State) :
    Except Fault Message × State :=
  dispatcher.submitFile user files path
    (fun data =>
      .sendDocument printer jobId data [.documentName (documentName path), .isLast last])
    state

end Dispatcher

end PrintProxy
