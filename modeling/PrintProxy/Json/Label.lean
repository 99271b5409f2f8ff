import PrintProxy.DelimiterTag
import PrintProxy.JobState
import PrintProxy.Json
import PrintProxy.OperationCode
import PrintProxy.PrinterState
import PrintProxy.Status
import PrintProxy.ValueTag

/-!
# Labels

The names under which tags, codes and states are stored.  An unassigned value
tag is stored as the label of its range with the code as the content.
-/

namespace PrintProxy

namespace DelimiterTag

def label : DelimiterTag → String
  | operationAttributes => "OperationAttributes"
  | jobAttributes => "JobAttributes"
  | endOfAttributes => "EndOfAttributes"
  | printerAttributes => "PrinterAttributes"
  | unsupportedAttributes => "UnsupportedAttributes"
  | subscriptionAttributes => "SubscriptionAttributes"
  | eventNotificationAttributes => "EventNotificationAttributes"
  | resourceAttributes => "ResourceAttributes"
  | documentAttributes => "DocumentAttributes"
  | systemAttributes => "SystemAttributes"

def toJson (tag : DelimiterTag) : Json := .string tag.label

def ofJson? (json : Json) : Option DelimiterTag := json.plainChoice? all label

end DelimiterTag

namespace ValueTag

/-- The label of an assigned tag, or that of the range of another. -/
def label : ValueTag → String
  | unsupported => "Unsupported"
  | default => "Default"
  | unknown => "Unknown"
  | noValue => "NoValue"
  | notSettable => "NotSettable"
  | deleteAttribute => "DeleteAttribute"
  | adminDefine => "AdminDefine"
  | outOfBand _ => "OutOfBand"
  | genericInteger => "GenericInteger"
  | integer => "Integer"
  | boolean => "Boolean"
  | enum => "Enum"
  | integerType _ => "IntegerType"
  | octetString => "OctetStringUnspecified"
  | dateTime => "DateTime"
  | resolution => "Resolution"
  | rangeOfInteger => "RangeOfInteger"
  | begCollection => "BegCollection"
  | textWithLanguage => "TextWithLanguage"
  | nameWithLanguage => "NameWithLanguage"
  | endCollection => "EndCollection"
  | octetStringType _ => "OctetStringType"
  | textWithoutLanguage => "TextWithoutLanguage"
  | nameWithoutLanguage => "NameWithoutLanguage"
  | keyword => "Keyword"
  | uri => "Uri"
  | uriScheme => "UriScheme"
  | charset => "Charset"
  | naturalLanguage => "NaturalLanguage"
  | mimeMediaType => "MimeMediaType"
  | memberAttrName => "MemberAttrName"
  | characterStringType _ => "CharacterStringType"
  | reserved _ => "Reserved"

/-- The code that a tag of a range keeps. -/
def keptCode? : ValueTag → Option UInt8
  | outOfBand code | integerType code | octetStringType code | characterStringType code
  | reserved code => some code
  | _ => none

def toJson (tag : ValueTag) : Json :=
  match tag.keptCode? with
  | some code => .object [(tag.label, .integer code.toNat)]
  | none => .string tag.label

/-- The tag of a range that keeps a code, by the label of the range. -/
def ofRange? (label : String) (code : UInt8) : Option ValueTag :=
  [outOfBand code, integerType code, octetStringType code, characterStringType code,
    reserved code].find? (·.label == label)

def ofJson? (json : Json) : Option ValueTag :=
  match json.choice? with
  | some (label, .null) => assigned.find? (·.label == label)
  | some (label, content) => content.uInt8? >>= ofRange? label
  | none => none

end ValueTag

namespace OperationCode

def label : OperationCode → String
  | printJob => "PrintJob"
  | printUri => "PrintUri"
  | validateJob => "ValidateJob"
  | createJob => "CreateJob"
  | sendDocument => "SendDocument"
  | sendUri => "SendUri"
  | cancelJob => "CancelJob"
  | getJobAttributes => "GetJobAttributes"
  | getJobs => "GetJobs"
  | getPrinterAttributes => "GetPrinterAttributes"
  | holdJob => "HoldJob"
  | releaseJob => "ReleaseJob"
  | restartJob => "RestartJob"
  | pausePrinter => "PausePrinter"
  | resumePrinter => "ResumePrinter"
  | purgeJobs => "PurgeJobs"
  | cupsGetDefault => "CupsGetDefault"
  | cupsGetPrinters => "CupsGetPrinters"

def ofJson? (json : Json) : Option OperationCode := json.plainChoice? all label

end OperationCode

namespace Status

def label : Status → String
  | successfulOk => "SuccessfulOk"
  | successfulOkIgnoredOrSubstitutedAttributes => "SuccessfulOkIgnoredOrSubstitutedAttributes"
  | successfulOkConflictingAttributes => "SuccessfulOkConflictingAttributes"
  | clientErrorBadRequest => "ClientErrorBadRequest"
  | clientErrorForbidden => "ClientErrorForbidden"
  | clientErrorNotAuthenticated => "ClientErrorNotAuthenticated"
  | clientErrorNotAuthorized => "ClientErrorNotAuthorized"
  | clientErrorNotPossible => "ClientErrorNotPossible"
  | clientErrorTimeout => "ClientErrorTimeout"
  | clientErrorNotFound => "ClientErrorNotFound"
  | clientErrorGone => "ClientErrorGone"
  | clientErrorRequestEntityTooLong => "ClientErrorRequestEntityTooLong"
  | clientErrorRequestValueTooLong => "ClientErrorRequestValueTooLong"
  | clientErrorDocumentFormatNotSupported => "ClientErrorDocumentFormatNotSupported"
  | clientErrorAttributesOrValuesNotSupported => "ClientErrorAttributesOrValuesNotSupported"
  | clientErrorUriSchemeNotSupported => "ClientErrorUriSchemeNotSupported"
  | clientErrorCharsetNotSupported => "ClientErrorCharsetNotSupported"
  | clientErrorConflictingAttributes => "ClientErrorConflictingAttributes"
  | clientErrorCompressionNotSupported => "ClientErrorCompressionNotSupported"
  | clientErrorCompressionError => "ClientErrorCompressionError"
  | clientErrorDocumentFormatError => "ClientErrorDocumentFormatError"
  | clientErrorDocumentAccessError => "ClientErrorDocumentAccessError"
  | serverErrorInternalError => "ServerErrorInternalError"
  | serverErrorOperationNotSupported => "ServerErrorOperationNotSupported"
  | serverErrorServiceUnavailable => "ServerErrorServiceUnavailable"
  | serverErrorVersionNotSupported => "ServerErrorVersionNotSupported"
  | serverErrorDeviceError => "ServerErrorDeviceError"
  | serverErrorTemporaryError => "ServerErrorTemporaryError"
  | serverErrorNotAcceptingJobs => "ServerErrorNotAcceptingJobs"
  | serverErrorBusy => "ServerErrorBusy"
  | serverErrorJobCanceled => "ServerErrorJobCanceled"
  | serverErrorMultipleDocumentJobsNotSupported => "ServerErrorMultipleDocumentJobsNotSupported"
  | unknown => "UnknownStatusCode"

def ofJson? (json : Json) : Option Status := json.plainChoice? all label

end Status

namespace JobState

def label : JobState → String
  | pending => "Pending"
  | pendingHeld => "PendingHeld"
  | processing => "Processing"
  | processingStopped => "ProcessingStopped"
  | canceled => "Canceled"
  | aborted => "Aborted"
  | completed => "Completed"

def ofJson? (json : Json) : Option JobState := json.plainChoice? all label

end JobState

namespace PrinterState

def label : PrinterState → String
  | idle => "Idle"
  | processing => "Processing"
  | stopped => "Stopped"

end PrinterState

namespace Orientation

def label : Orientation → String
  | portrait => "Portrait"
  | landscape => "Landscape"
  | reverseLandscape => "ReverseLandscape"
  | reversePortrait => "ReversePortrait"

end Orientation

namespace JobStateReason

def label : JobStateReason → String
  | none => "None"
  | jobIncoming => "JobIncoming"
  | jobDataInsufficient => "JobDataInsufficient"
  | jobCanceledByUser => "JobCanceledByUser"
  | jobCompletedSuccessfully => "JobCompletedSuccessfully"

def ofJson? (json : Json) : Option JobStateReason := json.plainChoice? all label

end JobStateReason

end PrintProxy
