/-!
# Status codes

The outcomes that a response can report, with their codes in its header.  The
codes up to 0x00ff report success.
-/

namespace PrintProxy

/-- A named outcome of an operation. -/
inductive Status where
  | successfulOk
  | successfulOkIgnoredOrSubstitutedAttributes
  | successfulOkConflictingAttributes
  | clientErrorBadRequest
  | clientErrorForbidden
  | clientErrorNotAuthenticated
  | clientErrorNotAuthorized
  | clientErrorNotPossible
  | clientErrorTimeout
  | clientErrorNotFound
  | clientErrorGone
  | clientErrorRequestEntityTooLong
  | clientErrorRequestValueTooLong
  | clientErrorDocumentFormatNotSupported
  | clientErrorAttributesOrValuesNotSupported
  | clientErrorUriSchemeNotSupported
  | clientErrorCharsetNotSupported
  | clientErrorConflictingAttributes
  | clientErrorCompressionNotSupported
  | clientErrorCompressionError
  | clientErrorDocumentFormatError
  | clientErrorDocumentAccessError
  | serverErrorInternalError
  | serverErrorOperationNotSupported
  | serverErrorServiceUnavailable
  | serverErrorVersionNotSupported
  | serverErrorDeviceError
  | serverErrorTemporaryError
  | serverErrorNotAcceptingJobs
  | serverErrorBusy
  | serverErrorJobCanceled
  | serverErrorMultipleDocumentJobsNotSupported
  /-- Stands for every code that has no name. -/
  | unknown
deriving DecidableEq, Repr

namespace Status

def code : Status → UInt16
  | successfulOk => 0x0000
  | successfulOkIgnoredOrSubstitutedAttributes => 0x0001
  | successfulOkConflictingAttributes => 0x0002
  | clientErrorBadRequest => 0x0400
  | clientErrorForbidden => 0x0401
  | clientErrorNotAuthenticated => 0x0402
  | clientErrorNotAuthorized => 0x0403
  | clientErrorNotPossible => 0x0404
  | clientErrorTimeout => 0x0405
  | clientErrorNotFound => 0x0406
  | clientErrorGone => 0x0407
  | clientErrorRequestEntityTooLong => 0x0408
  | clientErrorRequestValueTooLong => 0x0409
  | clientErrorDocumentFormatNotSupported => 0x040a
  | clientErrorAttributesOrValuesNotSupported => 0x040b
  | clientErrorUriSchemeNotSupported => 0x040c
  | clientErrorCharsetNotSupported => 0x040d
  | clientErrorConflictingAttributes => 0x040e
  | clientErrorCompressionNotSupported => 0x040f
  | clientErrorCompressionError => 0x0410
  | clientErrorDocumentFormatError => 0x0411
  | clientErrorDocumentAccessError => 0x0412
  | serverErrorInternalError => 0x0500
  | serverErrorOperationNotSupported => 0x0501
  | serverErrorServiceUnavailable => 0x0502
  | serverErrorVersionNotSupported => 0x0503
  | serverErrorDeviceError => 0x0504
  | serverErrorTemporaryError => 0x0505
  | serverErrorNotAcceptingJobs => 0x0506
  | serverErrorBusy => 0x0507
  | serverErrorJobCanceled => 0x0508
  | serverErrorMultipleDocumentJobsNotSupported => 0x0509
  | unknown => 0xffff

def all : List Status :=
  [successfulOk, successfulOkIgnoredOrSubstitutedAttributes, successfulOkConflictingAttributes,
    clientErrorBadRequest, clientErrorForbidden, clientErrorNotAuthenticated,
    clientErrorNotAuthorized, clientErrorNotPossible, clientErrorTimeout, clientErrorNotFound,
    clientErrorGone, clientErrorRequestEntityTooLong, clientErrorRequestValueTooLong,
    clientErrorDocumentFormatNotSupported, clientErrorAttributesOrValuesNotSupported,
    clientErrorUriSchemeNotSupported, clientErrorCharsetNotSupported,
    clientErrorConflictingAttributes, clientErrorCompressionNotSupported,
    clientErrorCompressionError, clientErrorDocumentFormatError, clientErrorDocumentAccessError,
    serverErrorInternalError, serverErrorOperationNotSupported, serverErrorServiceUnavailable,
    serverErrorVersionNotSupported, serverErrorDeviceError, serverErrorTemporaryError,
    serverErrorNotAcceptingJobs, serverErrorBusy, serverErrorJobCanceled,
    serverErrorMultipleDocumentJobsNotSupported, unknown]

/-- What a person is told about an outcome. -/
def phrase : Status → String
  | successfulOk => "No error"
  | successfulOkIgnoredOrSubstitutedAttributes => "Ignored or substituted attributes"
  | successfulOkConflictingAttributes => "Conflicting attributes"
  | clientErrorBadRequest => "Bad request"
  | clientErrorForbidden => "Forbidden"
  | clientErrorNotAuthenticated => "Not authenticated"
  | clientErrorNotAuthorized => "Not authorized"
  | clientErrorNotPossible => "Not possible"
  | clientErrorTimeout => "Timeout"
  | clientErrorNotFound => "Not found"
  | clientErrorGone => "Gone"
  | clientErrorRequestEntityTooLong => "Entity too long"
  | clientErrorRequestValueTooLong => "Request value too long"
  | clientErrorDocumentFormatNotSupported => "Document format not supported"
  | clientErrorAttributesOrValuesNotSupported => "Attributes or values not supported"
  | clientErrorUriSchemeNotSupported => "Uri scheme not supported"
  | clientErrorCharsetNotSupported => "Charset not supported"
  | clientErrorConflictingAttributes => "Conflicting attributes"
  | clientErrorCompressionNotSupported => "Compression not supported"
  | clientErrorCompressionError => "Compression error"
  | clientErrorDocumentFormatError => "Document format error"
  | clientErrorDocumentAccessError => "Document access error"
  | serverErrorInternalError => "Internal error"
  | serverErrorOperationNotSupported => "Operation not supported"
  | serverErrorServiceUnavailable => "Service unavailable"
  | serverErrorVersionNotSupported => "Version not supported"
  | serverErrorDeviceError => "Device error"
  | serverErrorTemporaryError => "Temporary error"
  | serverErrorNotAcceptingJobs => "Not accepting jobs"
  | serverErrorBusy => "Busy"
  | serverErrorJobCanceled => "Job canceled"
  | serverErrorMultipleDocumentJobsNotSupported => "Multiple document jobs not supported"
  | unknown => "Unknown status code"

def ofCode? (code : UInt16) : Option Status := all.find? (·.code == code)

/-- The outcome that a code reports. -/
def ofCode (code : UInt16) : Status := (ofCode? code).getD unknown

def isSuccess (status : Status) : Bool := status.code ≤ 0x00ff

theorem ofCode?_code (status : Status) : ofCode? status.code = some status := by
  cases status <;> decide

theorem ofCode?_eq_some_iff {code : UInt16} {status : Status} :
    ofCode? code = some status ↔ status.code = code := by
  constructor
  · intro found
    simpa using List.find?_some found
  · rintro rfl
    exact ofCode?_code status

@[simp] theorem ofCode_code (status : Status) : ofCode status.code = status := by
  simp [ofCode, ofCode?_code]

end Status

end PrintProxy
