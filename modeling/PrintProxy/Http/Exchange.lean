import PrintProxy.Dispatcher
import PrintProxy.Wire.Decode

/-!
# HTTP exchanges

Printing requests come as the bodies of HTTP requests with method `POST`, on any
path, and are answered in kind.  What cannot be decoded, answered or even taken
is answered with a bare HTTP status.
-/

namespace PrintProxy

/-- The answer to an HTTP request. -/
structure HttpResponse where
  status : Nat
  contentType : Option String
  body : Bytes
deriving DecidableEq, Repr

namespace HttpResponse

def bare (status : Nat) : HttpResponse := ⟨status, none, []⟩

def badRequest : HttpResponse := bare 400

def internalServerError : HttpResponse := bare 500

def notImplemented : HttpResponse := bare 501

def carrying (body : Bytes) : HttpResponse := ⟨200, some "application/ipp", body⟩

/-- The answer with a response, which has to have octets. -/
def ofMessage (response : Message) : HttpResponse :=
  match response.encode with
  | .ok body => carrying body
  | .error _ => internalServerError

end HttpResponse

def Dispatcher.exchange (dispatcher : Dispatcher) (method : String) (body : Bytes)
    (state : Dispatcher.State) : HttpResponse × Dispatcher.State :=
  if method = "POST" then
    match Message.decode body with
    | .error _ => (.badRequest, state)
    | .ok request =>
        let (response, next) := dispatcher.handle request state
        (.ofMessage response, next)
  else (.notImplemented, state)

end PrintProxy
