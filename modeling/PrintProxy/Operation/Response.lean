import PrintProxy.Operation

/-!
# Answers of a local spooler

`Operation.response` is the answer that a spooler would give to an operation's
request.  It repeats the request's groups, names the job it is about, adds what
has been decided about the job, and ends with the groups of printers that the
operation asks for.
-/

namespace PrintProxy

/-- What an answer to a request for printers says about each. -/
def printerGroup (printer : Uri) : AttributeGroup :=
  let name := printer.printerName
  (AttributeGroup.empty .printerAttributes).addAll
    [.ofValue AttributeName.printerUriSupported (.uri printer.render),
      .ofValue AttributeName.printerName (.nameWithoutLanguage name),
      .ofValue AttributeName.printerLocation (.textWithoutLanguage s!"internal ({name})"),
      .ofValue AttributeName.printerInfo (.textWithoutLanguage "virtual printer")]

def documentFormats : List String :=
  ["application/octet-stream", "application/pdf", "application/postscript",
    "application/vnd.cups-pdf", "application/vnd.cups-raw", "image/gif", "image/jpeg", "image/png",
    "image/tiff", "text/html", "text/plain"]

def media : List String :=
  ["na_letter_8.5x11in", "iso_a4_210x297mm", "iso_a5_148x210mm", "iso_a6_105x148mm",
    "iso_b5_176x250mm", "iso_c5_162x229mm", "iso_dl_110x220mm", "na_legal_8.5x14in",
    "na_executive_7.25x10.5in"]

/-- A resolution in dots per inch, the same in both directions. -/
def dotsPerInch (dots : Int32) : Value := .resolution dots dots 3

/-- What an answer to a request for a printer's description says about it. -/
def printerDescription (printer : Uri) : AttributeGroup :=
  (AttributeGroup.empty .printerAttributes).addAll
    [.ofValue AttributeName.printerUriSupported (.uri printer.render),
      .ofValue AttributeName.printerName (.nameWithoutLanguage printer.printerName),
      .ofValue AttributeName.printerLocation (.textWithoutLanguage "unknown"),
      .ofValue AttributeName.printerInfo (.textWithoutLanguage "provided by ipp-relay"),
      .ofValue AttributeName.printerMakeAndModel (.textWithoutLanguage "Generic PDF Printer"),
      .ofValue AttributeName.printerState (.enum PrinterState.idle.number),
      .ofValue AttributeName.printerIsAcceptingJobs (.boolean true),
      .ofTexts .mimeMediaType AttributeName.documentFormatSupported documentFormats,
      .ofTexts .keyword AttributeName.mediaSupported media,
      .ofValue AttributeName.mediaDefault (.keyword "iso_a4_210x297mm"),
      .ofTexts .keyword AttributeName.printColorModeSupported ["monochrome", "color"],
      .ofValue AttributeName.printColorModeDefault (.keyword "color"),
      .ofValues AttributeName.printerResolutionSupported ([300, 600, 1200].map dotsPerInch),
      .ofValue AttributeName.printerResolutionDefault (dotsPerInch 600),
      .ofTexts .keyword AttributeName.sidesSupported
        ["one-sided", "two-sided-long-edge", "two-sided-short-edge"],
      .ofValue AttributeName.sidesDefault (.keyword "two-sided-long-edge"),
      .ofValue AttributeName.copiesSupported (.rangeOfInteger 1 9999),
      .ofValue AttributeName.numberUpDefault (.integer 1),
      .ofValues AttributeName.numberUpSupported ([1, 2, 4, 6, 9, 16].map Value.integer),
      .ofValues AttributeName.orientationRequestedSupported
        (Orientation.all.map fun orientation => .enum orientation.number),
      .ofValue AttributeName.pageRangesSupported (.boolean true)]

/-- The printer that stands in for one that a request does not name. -/
def unnamedPrinter : Uri := ⟨some "ipp", some ⟨"localhost:631"⟩, "/printers", none⟩

namespace Operation

def targetUri (operation : Operation) : Uri :=
  match operation.request.printerUri with
  | .ok printer => printer
  | .error _ => unnamedPrinter

/-- Names the job of the request, if it names one. -/
def nameJob (operation : Operation) (response : Message) : Message :=
  match operation.jobId? with
  | none => response
  | some jobId =>
      let response := response.setJobAttribute (.ofValue AttributeName.jobId (.integer jobId))
      match operation.targetUri.jobUri jobId with
      | .ok uri => response.setJobUri uri
      | .error _ => response

/-- States what has been decided about the job. -/
def stateJob (operation : Operation) (response : Message) : Message :=
  let response :=
    match operation.jobState with
    | some state => response.setJobState state
    | none => response
  match operation.jobStateReason with
  | some reason => response.setJobStateReason reason
  | none => response

/-- Adds what an answer of the operation's kind says besides.  A printed document is done unless
something else has been decided. -/
def complete (operation : Operation) (response : Message) : Message :=
  match operation.kind with
  | .printJob | .sendDocument =>
      if operation.jobState.isNone then response.setJobState .completed else response
  | .getPrinterAttributes => response.pushGroup (printerDescription operation.targetUri)
  | .getPrinters => (operation.printers.map printerGroup).foldl Message.pushGroup response
  | .getDefault => ((operation.printers.take 1).map printerGroup).foldl Message.pushGroup response
  | .createJob | .cancelJob | .getJobs => response

def response (operation : Operation) : Message :=
  operation.complete
    (operation.stateJob (operation.nameJob (Message.responseFor operation.request)))

end Operation

end PrintProxy
