/-!
# Attribute names

The names of the attributes that the proxy writes or reads itself.
-/

namespace PrintProxy.AttributeName

def attributesCharset : String := "attributes-charset"
def attributesNaturalLanguage : String := "attributes-natural-language"
def copies : String := "copies"
def copiesSupported : String := "copies-supported"
def documentFormatSupported : String := "document-format-supported"
def documentName : String := "document-name"
def jobId : String := "job-id"
def jobImpressionsCompleted : String := "job-impressions-completed"
def jobMediaSheetsCompleted : String := "job-media-sheets-completed"
def jobName : String := "job-name"
def jobOriginatingUserName : String := "job-originating-user-name"
def jobState : String := "job-state"
def jobStateReasons : String := "job-state-reasons"
def jobUri : String := "job-uri"
def lastDocument : String := "last-document"
def mediaDefault : String := "media-default"
def mediaSupported : String := "media-supported"
def numberUpDefault : String := "number-up-default"
def numberUpSupported : String := "number-up-supported"
def orientationRequested : String := "orientation-requested"
def orientationRequestedSupported : String := "orientation-requested-supported"
def outputMode : String := "output-mode"
def pageRangesSupported : String := "page-ranges-supported"
def printerInfo : String := "printer-info"
def printerIsAcceptingJobs : String := "printer-is-accepting-jobs"
def printerLocation : String := "printer-location"
def printerMakeAndModel : String := "printer-make-and-model"
def printerName : String := "printer-name"
def printerResolutionDefault : String := "printer-resolution-default"
def printerResolutionSupported : String := "printer-resolution-supported"
def printerState : String := "printer-state"
def printerUri : String := "printer-uri"
def printerUriSupported : String := "printer-uri-supported"
def printColorModeDefault : String := "print-color-mode-default"
def printColorModeSupported : String := "print-color-mode-supported"
def requestedAttributes : String := "requested-attributes"
def requestingUserName : String := "requesting-user-name"
def sidesDefault : String := "sides-default"
def sidesSupported : String := "sides-supported"
def statusMessage : String := "status-message"

end PrintProxy.AttributeName
