import PrintProxy.CommandLine
import PrintProxy.Dispatcher.Submit
import PrintProxy.Http.Post

/-!
# Carrying out command lines

What a command prints and how it ends.  A command line that asks for help ends
well, one that makes no command ends with 2, and a command that fails ends with 1.
A command that posts a request whose answer would be due behind the last second
that a clock shows is broken off and ends with 101.
-/

namespace PrintProxy

/-- What a command has to do with: files, standard input, the user's name, a connection and a
clock. -/
structure Surroundings where
  files : FileContents
  standardInput : Except Fault Bytes
  user : String
  connection : Connection
  /-- The second that the clock shows. -/
  clock : Nat

/-- The last second that a clock shows. -/
def lastSecond : Nat := 9223372036854775807

/-- How a command ends. -/
structure Outcome where
  exitCode : Nat
  output : String
  /-- What goes to standard error. -/
  complaint : String
deriving DecidableEq, Repr

/-- Why a command prints nothing. -/
inductive CommandFailure where
  | fault (cause : Fault)
  /-- An answer would be due behind the last second. -/
  | endlessTimeout
deriving DecidableEq, Repr

namespace CommandFailure

def exitCode : CommandFailure → Nat
  | fault _ => 1
  | endlessTimeout => 101

def message : CommandFailure → String
  | fault cause => cause.message
  | endlessTimeout => "the timeout ends behind the last second of the clock"

end CommandFailure

namespace CommandLine

/-- Lines, each with its end. -/
def renderLines (lines : List String) : String := String.join (lines.map (· ++ "\n"))

/-- The text of a URI as a fault of the proxy. -/
def uriOfText (text : String) : Except Fault Uri :=
  match Uri.parse text with
  | .ok uri => .ok uri
  | .error fault => .error (.invalidUri fault)

/-- The dispatcher for commands to a printer.  Without a target, the printer is the target. -/
def dispatcherFor (line : CommandLine) (surroundings : Surroundings) (printer : Uri) :
    Except Fault Dispatcher := do
  let target ← ForwardTarget.parse (line.target.getD printer.render)
  return {
    target
    printerName := standardPrinterName
    recording := false
    transport := Transport.overHttp surroundings.connection }

/-- The job attribute that an option sets: the text before its first `=` is the name. -/
def jobOption? (option : String) : Option Attribute :=
  match option.toList.dropWhile (· != '=') with
  | [] => none
  | _ :: value =>
      let name := String.ofList (option.toList.takeWhile (· != '='))
      some (.ofValue name (Value.ofText (String.ofList value)))

/-- The lines of all groups of a delimiter, each group with its attributes by name. -/
def groupLines (response : Message) (tag : DelimiterTag) : List String :=
  (response.attributes.groupsOf tag).flatMap fun group =>
    (group.attributes.mergeSort fun left right => left.name ≤ right.name).map Attribute.renderAll

def jobLines (response : Message) : List String :=
  (response.attributes.groupsOf .jobAttributes).map fun group =>
    " ".intercalate (group.attributes.map Attribute.render)

end CommandLine

/-- What a command asks of a printer, and the lines that it prints of the response. -/
structure Errand where
  dispatcher : Dispatcher
  ticket : Ticket
  view : Message → List String

namespace CommandLine

def errand (line : CommandLine) (surroundings : Surroundings) : Except Fault Errand :=
  match line.command with
  | .serve _ _ _ _ => do
      let _ ← ForwardTarget.parse (line.target.getD ForwardTarget.standard.render)
      .error (.io "no listener is available")
  | .print uri file jobName userName options => do
      let printer ← uriOfText uri
      let dispatcher ← line.dispatcherFor surroundings printer
      let data ←
        match file with
        | some path => surroundings.files path
        | none => surroundings.standardInput
      let details :=
        (jobName.map PrintDetail.jobTitle).toList ++ (userName.map PrintDetail.userName).toList ++
          (options.filterMap jobOption?).map PrintDetail.jobAttribute
      return ⟨dispatcher, .printJob printer data details, (groupLines · .jobAttributes)⟩
  | .status uri names => do
      let printer ← uriOfText uri
      let dispatcher ← line.dispatcherFor surroundings printer
      return ⟨dispatcher, .getPrinterAttributes printer names, (groupLines · .printerAttributes)⟩
  | .jobs uri => do
      let printer ← uriOfText uri
      let dispatcher ← line.dispatcherFor surroundings printer
      return ⟨dispatcher, .getJobs printer [], jobLines⟩
  | .cancel uri jobId => do
      let printer ← uriOfText uri
      let dispatcher ← line.dispatcherFor surroundings printer
      return ⟨dispatcher, .cancelJob printer jobId [], ([·.header.status.phrase])⟩

/-- Whether the answer to a request that is posted now is due while the clock still runs. -/
def canWait (line : CommandLine) (surroundings : Surroundings) : Bool :=
  surroundings.clock + line.timeout.toNat ≤ lastSecond

/-- The lines that a command prints, unless it fails.  Its errand goes to a dispatcher that has done
nothing yet, and the timeout matters once there is something to post. -/
def lines (line : CommandLine) (surroundings : Surroundings) :
    Except CommandFailure (List String) := do
  let errand ← (line.errand surroundings).mapError .fault
  let (result, after) := errand.dispatcher.submit surroundings.user errand.ticket {}
  if !line.canWait surroundings && after.deliveries.any (·.post.toBool) then
    .error .endlessTimeout
  else (result.map errand.view).mapError .fault

def usage : String :=
  renderLines
    ["Usage: [-t SECONDS] [-T TARGET] COMMAND",
      "  serve [-b ADDRESS] [-p PORT] [--printer-name NAME] [-r]",
      "  print URI [-f FILE] [-j JOB-NAME] [-u USER-NAME] [-o NAME=VALUE]...",
      "  status URI [-a ATTRIBUTE]...",
      "  jobs URI",
      "  cancel URI JOB-ID"]

def run (arguments : List String) (surroundings : Surroundings) : Outcome :=
  match parse arguments with
  | .error .help => ⟨0, usage, ""⟩
  | .error .usage => ⟨2, "", usage⟩
  | .ok line =>
      match line.lines surroundings with
      | .ok lines => ⟨0, renderLines lines, ""⟩
      | .error failure => ⟨failure.exitCode, "", "Error: " ++ failure.message ++ "\n"⟩

end CommandLine

end PrintProxy
