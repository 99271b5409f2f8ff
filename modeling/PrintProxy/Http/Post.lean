import PrintProxy.Dispatcher
import PrintProxy.Uri.Derived

/-!
# Outgoing HTTP requests

A request goes to a server as the body of an HTTP request.  It is encoded first,
then the server's URI and the extra headers are checked.  A request that passes
is posted, which needs a scheme that HTTP carries and a connection.
-/

namespace PrintProxy

/-- An HTTP request that posts a printing request. -/
structure HttpPost where
  target : String
  /-- Extra headers, by name. -/
  headers : List (String × String)
  body : Bytes
deriving DecidableEq, Repr

namespace HttpPost

/-- Puts a header in the place of one with the same name, or behind all. -/
def setHeader (headers : List (String × String)) (header : String × String) :
    List (String × String) :=
  changeFirst (·.1 == header.1) (fun _ => header) header headers

def isHeaderNameCharacter (character : Char) : Bool :=
  character.isAlphanum || "!#$%&'*+-.^_|~".toList.contains character || character.toNat = 0x60

def isHeaderName (name : String) : Bool :=
  !name.isEmpty && name.toList.all isHeaderNameCharacter

/-- Whether a header can have a value: no control characters but the tabulator. -/
def isHeaderValue (value : String) : Bool :=
  value.toList.all fun character =>
    character = '\t' || (0x20 ≤ character.toNat && character.toNat ≠ 0x7f)

def isHeader (header : String × String) : Bool :=
  isHeaderName header.1 && isHeaderValue header.2

def isUri (text : String) : Bool := (Uri.parse text).toBool

/-- Whether HTTP carries requests to a URI. -/
def isHttp (text : String) : Bool :=
  match Uri.parse text with
  | .ok uri => uri.scheme == some "http" || uri.scheme == some "https"
  | .error _ => false

/-- The HTTP request for a printing request to a server. -/
def prepare (server : Uri) (headers : List (String × String)) (request : Message) :
    Except Fault HttpPost :=
  match request.encode with
  | .error fault => .error (.wire fault)
  | .ok body =>
      let target := server.httpForm
      let headers := headers.foldl setHeader []
      if !isUri target then .error (.client "the URI is malformed")
      else if !headers.all isHeader then .error (.client "a header is malformed")
      else .ok { target, headers, body }

end HttpPost

/-- A connection takes an HTTP request and brings back the printing response. -/
abbrev Connection := HttpPost → Except Fault Message

/-- The connection of a host without a network. -/
def Connection.unavailable : Connection := fun _ => .error (.client "no network is available")

/-- Puts a request on a connection, if HTTP carries requests to its target. -/
def HttpPost.over (connection : Connection) (post : HttpPost) : Except Fault Message :=
  if isHttp post.target then connection post
  else .error (.client "the scheme is not that of HTTP")

def Delivery.post (delivery : Delivery) : Except Fault HttpPost :=
  HttpPost.prepare delivery.destination [] delivery.request

/-- The transport that posts every delivery. -/
def Transport.overHttp (connection : Connection) : Transport := fun _ delivery =>
  delivery.post >>= HttpPost.over connection

end PrintProxy
