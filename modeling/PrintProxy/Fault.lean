import PrintProxy.Header
import PrintProxy.Uri.Fault
import PrintProxy.WireFault

/-!
# Faults of the proxy

Everything that can keep an operation from being built, sent, answered or
understood, beyond the wire format itself.
-/

namespace PrintProxy

/-- Why a request or a setting is refused. -/
inductive Refusal where
  /-- The operation has a name but no support. -/
  | operationNotSupported (operation : OperationCode)
  /-- The header's code belongs to no supported operation. -/
  | unsupportedCode (header : Header)
  /-- The header's code is not that of the operation. -/
  | otherOperation (expected : OperationCode) (header : Header)
  | noPrinterUri (header : Header)
  | noJob (header : Header)
  /-- The text of a local target names no directory. -/
  | noDirectory (target : String)
  | unsupportedTarget (target : String)
  /-- Refused elsewhere, with this explanation. -/
  | explained (explanation : String)
deriving DecidableEq, Repr

def Refusal.message : Refusal → String
  | .operationNotSupported operation => operation.name ++ " is not supported"
  | .unsupportedCode header =>
      let code := Numeral.hex 4 header.code.toNat
      let shown := header.render
      s!"unsupported operation 0x{code} in {shown}"
  | .otherOperation expected header =>
      let name := expected.name
      let shown := header.render
      s!"not a {name} request: {shown}"
  | .noPrinterUri header => "no 'printer-uri' given in " ++ header.render
  | .noJob header =>
      "neither 'printer-uri' & 'job-id' nor 'job-uri' is given in " ++ header.render
  | .noDirectory target => s!"no directory given in '{target}'"
  | .unsupportedTarget target => s!"unsupported forward target '{target}'"
  | .explained explanation => explanation

/-- Why something the proxy was asked for could not be done. -/
inductive Fault where
  /-- The server answered with this HTTP status. -/
  | httpStatus (code : UInt16)
  /-- A file or a connection failed. -/
  | io (explanation : String)
  | status (outcome : Status)
  | wire (fault : WireFault)
  | refused (refusal : Refusal)
  | attributeNotFound (name : String)
  | invalidAttributeType (name : String)
  | invalidUri (fault : UriFault)
  /-- The outgoing HTTP request could not be made. -/
  | client (explanation : String)
deriving DecidableEq, Repr

def Fault.message : Fault → String
  | .httpStatus code => "HTTP request error: " ++ Numeral.decimal code.toNat
  | .io explanation => explanation
  | .status outcome => "IPP status error: " ++ outcome.phrase
  | .wire fault => fault.message
  | .refused refusal => refusal.message
  | .attributeNotFound name => "Attribute not found: " ++ name
  | .invalidAttributeType name => "Invalid attribute type: " ++ name
  | .invalidUri fault => fault.message
  | .client explanation => explanation

end PrintProxy
