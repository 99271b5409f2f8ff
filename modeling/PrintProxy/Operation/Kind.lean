import PrintProxy.OperationCode

/-!
# Supported operations

Of the named operations eight are supported.  Each addresses nothing, a printer
or a job.
-/

namespace PrintProxy

/-- A supported operation. -/
inductive OperationKind where
  | printJob
  | createJob
  | sendDocument
  | cancelJob
  | getJobs
  | getPrinterAttributes
  | getPrinters
  | getDefault
deriving DecidableEq, Repr

/-- What an operation is about. -/
inductive Addressee where
  | nothing
  /-- Named by `printer-uri`. -/
  | printer
  /-- Named by `printer-uri` and `job-id`, or by `job-uri`. -/
  | job
deriving DecidableEq, Repr

namespace OperationKind

def code : OperationKind → OperationCode
  | printJob => .printJob
  | createJob => .createJob
  | sendDocument => .sendDocument
  | cancelJob => .cancelJob
  | getJobs => .getJobs
  | getPrinterAttributes => .getPrinterAttributes
  | getPrinters => .cupsGetPrinters
  | getDefault => .cupsGetDefault

def addressee : OperationKind → Addressee
  | printJob | createJob | getJobs | getPrinterAttributes => .printer
  | sendDocument | cancelJob => .job
  | getPrinters | getDefault => .nothing

def all : List OperationKind :=
  [printJob, createJob, sendDocument, cancelJob, getJobs, getPrinterAttributes, getPrinters,
    getDefault]

def ofCode? (code : UInt16) : Option OperationKind := all.find? (·.code.code == code)

theorem ofCode?_code (kind : OperationKind) : ofCode? kind.code.code = some kind := by
  cases kind <;> decide

theorem ofCode?_eq_some_iff {code : UInt16} {kind : OperationKind} :
    ofCode? code = some kind ↔ kind.code.code = code := by
  constructor
  · intro found
    simpa using List.find?_some found
  · rintro rfl
    exact ofCode?_code kind

end OperationKind

end PrintProxy
