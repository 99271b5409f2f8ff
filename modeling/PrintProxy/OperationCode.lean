/-!
# Operation codes

The operations that have a name here, with their codes in a request's header.
-/

namespace PrintProxy

/-- A named operation of the protocol. -/
inductive OperationCode where
  | printJob
  | printUri
  | validateJob
  | createJob
  | sendDocument
  | sendUri
  | cancelJob
  | getJobAttributes
  | getJobs
  | getPrinterAttributes
  | holdJob
  | releaseJob
  | restartJob
  | pausePrinter
  | resumePrinter
  | purgeJobs
  | cupsGetDefault
  | cupsGetPrinters
deriving DecidableEq, Repr

namespace OperationCode

def code : OperationCode → UInt16
  | printJob => 0x0002
  | printUri => 0x0003
  | validateJob => 0x0004
  | createJob => 0x0005
  | sendDocument => 0x0006
  | sendUri => 0x0007
  | cancelJob => 0x0008
  | getJobAttributes => 0x0009
  | getJobs => 0x000a
  | getPrinterAttributes => 0x000b
  | holdJob => 0x000c
  | releaseJob => 0x000d
  | restartJob => 0x000e
  | pausePrinter => 0x0010
  | resumePrinter => 0x0011
  | purgeJobs => 0x0012
  | cupsGetDefault => 0x4001
  | cupsGetPrinters => 0x4002

def all : List OperationCode :=
  [printJob, printUri, validateJob, createJob, sendDocument, sendUri, cancelJob, getJobAttributes,
    getJobs, getPrinterAttributes, holdJob, releaseJob, restartJob, pausePrinter, resumePrinter,
    purgeJobs, cupsGetDefault, cupsGetPrinters]

def name : OperationCode → String
  | printJob => "Print-Job"
  | printUri => "Print-URI"
  | validateJob => "Validate-Job"
  | createJob => "Create-Job"
  | sendDocument => "Send-Document"
  | sendUri => "Send-URI"
  | cancelJob => "Cancel-Job"
  | getJobAttributes => "Get-Job-Attributes"
  | getJobs => "Get-Jobs"
  | getPrinterAttributes => "Get-Printer-Attributes"
  | holdJob => "Hold-Job"
  | releaseJob => "Release-Job"
  | restartJob => "Restart-Job"
  | pausePrinter => "Pause-Printer"
  | resumePrinter => "Resume-Printer"
  | purgeJobs => "Purge-Jobs"
  | cupsGetDefault => "CUPS-Get-Default"
  | cupsGetPrinters => "CUPS-Get-Printers"

def ofCode? (code : UInt16) : Option OperationCode := all.find? (·.code == code)

end OperationCode

end PrintProxy
