import PrintProxy.Version
import PrintProxy.OperationCode
import PrintProxy.Status

/-!
# Message headers

The first eight octets of a message: the version, a code and the request id.
The code names an operation in a request and an outcome in a response.
-/

namespace PrintProxy

/-- What every message begins with. -/
structure Header where
  version : Version
  code : UInt16
  requestId : Int32
deriving DecidableEq, Repr

namespace Header

def toBytes (header : Header) : Bytes :=
  [header.version.major, header.version.minor] ++ Bytes.ofUInt16 header.code ++
    Bytes.ofInt32 header.requestId

/-- The outcome that the code reports. -/
def status (header : Header) : Status := Status.ofCode header.code

def operation? (header : Header) : Option OperationCode := OperationCode.ofCode? header.code

/-- Version, code and id between bars. -/
def render (header : Header) : String :=
  let version := header.version.render
  let code := Numeral.hex 4 header.code.toNat
  let requestId := Numeral.signed header.requestId.toInt
  s!"|{version}|0x{code}|{requestId}|"

end Header

end PrintProxy
