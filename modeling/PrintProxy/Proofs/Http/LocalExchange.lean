import PrintProxy.Http.Exchange
import PrintProxy.Http.Post
import PrintProxy.Proofs.Dispatcher.LocalAnswer

/-!
# HTTP exchanges with a local dispatcher

Whatever body is posted to a dispatcher whose target is a directory, in whatever
state it is, the HTTP answer carries a printing response exactly if the body is a
printing request.  The response can be decoded again, so there is no body that
makes the server fail.
-/

namespace PrintProxy

/-- What a local dispatcher answers to a request, whatever state it is in. -/
structure LocalAnswer (request response : Message) : Prop where
  version : response.header.version = request.header.version
  requestId : response.header.requestId = request.header.requestId
  unsupported :
    response.header.status = .serverErrorOperationNotSupported ↔ ¬request.IsSupported
  badRequest :
    response.header.status = .clientErrorBadRequest ↔ request.IsAboutJob ∧ ¬request.NamesJob
  successful :
    response.header.status = .successfulOk ↔
      request.IsSupported ∧ (request.IsAboutJob → request.NamesJob)

theorem HttpResponse.ofMessage_of_encode {response : Message} {octets : Bytes}
    (encoded : response.encode = .ok octets) : ofMessage response = carrying octets := by
  rw [ofMessage, encoded]

namespace Dispatcher

variable {dispatcher : Dispatcher}

theorem exchange_of_error {body : Bytes} {fault : WireFault}
    (undecoded : Message.decode body = .error fault) (state : State) :
    dispatcher.exchange "POST" body state = (.badRequest, state) := by
  rw [exchange, if_pos rfl, undecoded]

theorem exchange_of_decode {body : Bytes} {request : Message}
    (decoded : Message.decode body = .ok request) (state : State) :
    dispatcher.exchange "POST" body state =
      (.ofMessage (dispatcher.handle request state).1, (dispatcher.handle request state).2) := by
  rw [exchange, if_pos rfl, decoded]

/-- A response that arrives as it was made is carried by the HTTP answer. -/
theorem exchange_of_transmissible {body : Bytes} {request : Message} {state : State}
    (decoded : Message.decode body = .ok request)
    (sound : (dispatcher.handle request state).1.attributes.Transmissible) :
    (dispatcher.exchange "POST" body state).1.status = 200 ∧
      Message.decode (dispatcher.exchange "POST" body state).1.body =
        .ok (dispatcher.handle request state).1 := by
  obtain ⟨octets, encoded, arrives⟩ := Wire.exists_decode_encode_iff.mpr sound
  rw [exchange_of_decode decoded, HttpResponse.ofMessage_of_encode encoded]
  exact ⟨rfl, arrives⟩

variable {directory : String}

theorem localAnswer_handle (isLocal : dispatcher.target = .directory directory)
    {request : Message} (sound : request.attributes.Transmissible) (state : State) :
    LocalAnswer request (dispatcher.handle request state).1 := by
  have status := status_handle isLocal sound state
  constructor
  · exact (answers_handle isLocal sound state).version
  · exact requestId_handle request state
  · rw [status, localStatus_eq_unsupported_iff]
  · rw [status, localStatus_eq_badRequest_iff]
  · rw [status, localStatus_eq_successfulOk_iff]

theorem exchange_of_request (isLocal : dispatcher.target = .directory directory)
    {body : Bytes} {request : Message} (decoded : Message.decode body = .ok request)
    (state : State) :
    (dispatcher.exchange "POST" body state).1.status = 200 ∧
      Message.decode (dispatcher.exchange "POST" body state).1.body =
        .ok (dispatcher.handle request state).1 ∧
      (dispatcher.exchange "POST" body state).2 = (dispatcher.handle request state).2 ∧
      LocalAnswer request (dispatcher.handle request state).1 := by
  have sound := Wire.transmissible_of_decode decoded
  obtain ⟨status, arrives⟩ :=
    exchange_of_transmissible decoded (answers_handle isLocal sound state).transmissible
  have next : (dispatcher.exchange "POST" body state).2 = (dispatcher.handle request state).2 := by
    rw [exchange_of_decode decoded]
  exact ⟨status, arrives, next, localAnswer_handle isLocal sound state⟩

/-- A local dispatcher refuses exactly what is no printing request, without being changed by it, and
answers everything else with a printing response that arrives as it was made. -/
theorem exchange_of_directory (isLocal : dispatcher.target = .directory directory)
    (method : String) (body : Bytes) (state : State) :
    (method ≠ "POST" →
      (dispatcher.exchange method body state).1.status = 501 ∧
        (dispatcher.exchange method body state).2 = state) ∧
    (((dispatcher.exchange "POST" body state).1.status = 400 ∧
        (dispatcher.exchange "POST" body state).2 = state) ↔
      ∃ fault, Message.decode body = .error fault) ∧
    ∀ request, Message.decode body = .ok request →
      (dispatcher.exchange "POST" body state).1.status = 200 ∧
      Message.decode (dispatcher.exchange "POST" body state).1.body =
        .ok (dispatcher.handle request state).1 ∧
      (dispatcher.exchange "POST" body state).2 = (dispatcher.handle request state).2 ∧
      LocalAnswer request (dispatcher.handle request state).1 := by
  refine ⟨?_, ?_, fun request decoded => exchange_of_request isLocal decoded state⟩
  · intro otherMethod
    rw [exchange, if_neg otherMethod]
    exact ⟨rfl, rfl⟩
  · constructor
    · intro refused
      cases decoded : Message.decode body with
      | error fault => exact ⟨fault, rfl⟩
      | ok request =>
          rw [(exchange_of_request isLocal decoded state).1] at refused
          cases refused.1
    · intro undecoded
      obtain ⟨fault, undecoded⟩ := undecoded
      rw [exchange_of_error undecoded]
      exact ⟨rfl, rfl⟩

/-- The dispatcher of a proxy that is told nothing, on a host without a network. -/
def unconnected : Dispatcher := ofConfig .standard (.overHttp .unavailable)

/-- A request to cancel a job, without the job. -/
def cancellation : Message := ⟨⟨.v2_0, 0x0008, 7⟩, ⟨[]⟩, []⟩

theorem exchange_of_directory_cancellation :
    (unconnected.exchange "GET" [2, 0, 0, 8, 0, 0, 0, 7, 3] {}).1.status = 501 ∧
      (unconnected.exchange "POST" [2, 0, 0, 8, 0, 0, 0, 7, 3] {}).1.status = 200 ∧
      (unconnected.handle cancellation {}).1.header.status = .clientErrorBadRequest := by
  have isLocal : unconnected.target = .directory "/tmp/IPP" := rfl
  have decoded : Message.decode [2, 0, 0, 8, 0, 0, 0, 7, 3] = .ok cancellation :=
    Wire.decode_eq_ok_iff.mpr ⟨by decide, rfl⟩
  have exchanged := exchange_of_directory isLocal "GET" [2, 0, 0, 8, 0, 0, 0, 7, 3] {}
  obtain ⟨posted, _, _, answered⟩ := exchanged.2.2 cancellation decoded
  exact ⟨(exchanged.1 (by decide)).1, posted, answered.badRequest.mpr (by decide)⟩

end Dispatcher

end PrintProxy
