import PrintProxy.Proofs.Dispatcher.Relay
import PrintProxy.Proofs.Http.LocalExchange
import PrintProxy.Proofs.Wire.MoreInput

/-!
# HTTP exchanges with a relaying dispatcher

Whatever printing request is posted to a dispatcher whose target is a server, the
HTTP answer carries a printing response, as long as what the server sends can be
decoded.  A failed delivery is explained in a response as well, and so it must
have an explanation that fits a text: the explanation of a fault that quotes too
many octets makes the HTTP exchange fail.
-/

namespace PrintProxy

open Wire (greatestFieldLength)

/-- The HTTP answer carries a response to the request, which reports the failure if there is one. -/
structure HttpResponse.Reports (exchanged : HttpResponse) (request : Message) (failed : Prop) :
    Prop where
  status : exchanged.status = 200
  arrives : ∃ response, Message.decode exchanged.body = .ok response ∧
    response.header.requestId = request.header.requestId ∧
    (failed → response.header.status = .serverErrorInternalError)

namespace Dispatcher

variable {dispatcher : Dispatcher} {server : Uri} {request : Message} {state : State}

/-- The request is delivered to a server, and the delivery fails. -/
def FailsWith (dispatcher : Dispatcher) (server : Uri) (request : Message) (state : State)
    (fault : Fault) : Prop :=
  request.IsRelayed ∧
    dispatcher.transport state.deliveries (deliveryOf server request state.nextRequestId) =
      .error fault

theorem handle_of_failsWith (isServer : dispatcher.target = .server server) {fault : Fault}
    (fails : dispatcher.FailsWith server request state fault) :
    (dispatcher.handle request state).1 =
      request.errorFor .serverErrorInternalError fault.message := by
  rw [handle_of_isRelayed isServer fails.1, fails.2]
  rfl

/-- What a server sends can be decoded, so that it can be passed on. -/
def AnswersDecode (dispatcher : Dispatcher) : Prop :=
  ∀ earlier delivery answer, dispatcher.transport earlier delivery = .ok answer →
    ∃ octets, Message.decode octets = .ok answer

theorem transmissible_handle_of_not_failsWith (isServer : dispatcher.target = .server server)
    (decodable : dispatcher.AnswersDecode) (sound : request.attributes.Transmissible)
    (succeeds : ∀ fault, ¬dispatcher.FailsWith server request state fault) :
    (dispatcher.handle request state).1.attributes.Transmissible := by
  by_cases relayed : request.IsRelayed
  · rw [handle_of_isRelayed isServer relayed]
    cases back : dispatcher.transport state.deliveries
        (deliveryOf server request state.nextRequestId) with
    | ok answer =>
        obtain ⟨octets, decoded⟩ := decodable _ _ answer back
        have sent : answer.attributes.Transmissible := Wire.transmissible_of_decode decoded
        exact sent
    | error fault => exact absurd ⟨relayed, back⟩ (succeeds fault)
  · unfold handle
    dsimp only
    split
    · next unsupported => exact absurd (isRelayed_of_unsupported unsupported) relayed
    · next kind supported =>
        have code := OperationKind.ofCode?_eq_some_iff.mp supported
        rcases dispatcher.handleOperation_of_not_isRelayed code relayed state with
          ⟨_, emulated⟩ | refused
        · rw [emulated]
          exact (dispatcher.answers_emulate
            (Operation.answerable_carrying code sound) state).transmissible
        · rw [refused]
          exact request.transmissible_errorFor _ (utf8ByteSize_noJob_le _)

theorem exchange_of_failsWith (isServer : dispatcher.target = .server server) {body : Bytes}
    (decoded : Message.decode body = .ok request) {fault : Fault}
    (fails : dispatcher.FailsWith server request state fault)
    (tooLong : greatestFieldLength < fault.message.utf8ByteSize) :
    (dispatcher.exchange "POST" body state).1 = .internalServerError := by
  rw [exchange_of_decode decoded, handle_of_failsWith isServer fails, HttpResponse.ofMessage]
  cases encoded : (request.errorFor .serverErrorInternalError fault.message).encode with
  | ok octets =>
      have fits := (request.exists_encode_errorFor_iff _ _).mp ⟨octets, encoded⟩
      exact absurd fits (Nat.not_le.mpr tooLong)
  | error _ => rfl

/-- A posted request is answered exactly if the fault of its delivery, if there is one, has an
explanation that fits a text; otherwise the HTTP exchange fails. -/
theorem exchange_of_server_iff (isServer : dispatcher.target = .server server)
    (decodable : dispatcher.AnswersDecode) {body : Bytes}
    (decoded : Message.decode body = .ok request) (state : State) :
    ((dispatcher.exchange "POST" body state).1.Reports request
        (∃ fault, dispatcher.FailsWith server request state fault) ↔
      ∀ fault, dispatcher.FailsWith server request state fault →
        fault.message.utf8ByteSize ≤ greatestFieldLength) ∧
    ∀ fault, dispatcher.FailsWith server request state fault →
      greatestFieldLength < fault.message.utf8ByteSize →
      (dispatcher.exchange "POST" body state).1 = .internalServerError := by
  refine ⟨⟨?fits, ?reports⟩, ?overflows⟩
  case fits =>
    intro reports fault fails
    by_contra tooLong
    have failure := exchange_of_failsWith isServer decoded fails (Nat.not_le.mp tooLong)
    have status := reports.status
    rw [failure] at status
    cases status
  case reports =>
    intro fits
    have sound : (dispatcher.handle request state).1.attributes.Transmissible := by
      by_cases fails : ∃ fault, dispatcher.FailsWith server request state fault
      · obtain ⟨fault, fails⟩ := fails
        rw [handle_of_failsWith isServer fails]
        exact request.transmissible_errorFor _ (fits fault fails)
      · apply transmissible_handle_of_not_failsWith isServer decodable
        · exact Wire.transmissible_of_decode decoded
        · exact not_exists.mp fails
    obtain ⟨status, arrives⟩ := exchange_of_transmissible decoded sound
    refine ⟨status, _, arrives, requestId_handle request state, ?_⟩
    rintro ⟨fault, fails⟩
    rw [handle_of_failsWith isServer fails]
    exact Status.ofCode_code .serverErrorInternalError
  case overflows =>
    intro fault fails tooLong
    exact exchange_of_failsWith isServer decoded fails tooLong

/-- A request for the jobs of a printer. -/
def jobsQuery : Message := ⟨⟨.v2_0, 0x000a, 7⟩, ⟨[]⟩, []⟩

theorem decode_jobsQuery : Message.decode [2, 0, 0, 10, 0, 0, 0, 7, 3] = .ok jobsQuery :=
  Wire.decode_eq_ok_iff.mpr ⟨by decide, rfl⟩

/-- A dispatcher whose server is down. -/
def unreachable : Dispatcher :=
  { target := .server printHost
    printerName := "relay"
    recording := false
    transport := fun _ _ => .error (.httpStatus 503) }

theorem exchange_of_server_iff_unreachable :
    (unreachable.exchange "POST" [2, 0, 0, 10, 0, 0, 0, 7, 3] {}).1.Reports jobsQuery
      (∃ fault, unreachable.FailsWith printHost jobsQuery {} fault) := by
  have decodable : unreachable.AnswersDecode := by
    intro _ _ _ answered
    cases answered
  refine (exchange_of_server_iff rfl decodable decode_jobsQuery {}).1.mpr ?_
  intro fault fails
  cases fails.2
  decide +kernel

/-- An attribute name that is long and no text. -/
def unreadable : Bytes := 0xff :: List.replicate 32750 0xff

/-- A response with an attribute of that name. -/
def garbled : Bytes :=
  Header.toBytes ⟨.v2_0, Status.successfulOk.code, 1⟩ ++
    0x01 :: 0x44 :: (Bytes.ofUInt16 (UInt16.ofNat unreadable.length) ++ unreadable ++
      [0, 1, 0x61, 3])

/-- A dispatcher whose server sends that response. -/
def garbling : Dispatcher :=
  { target := .server printHost
    printerName := "relay"
    recording := false
    transport := fun _ _ => (Message.decode garbled).mapError .wire }

/-- What the server sends cannot be decoded, and neither can this be reported. -/
theorem exchange_garbling :
    garbling.AnswersDecode ∧
      Message.decode garbled = .error (.invalidName unreadable) ∧
      Message.decode [2, 0, 0, 10, 0, 0, 0, 7, 3] = .ok jobsQuery ∧
      (garbling.exchange "POST" [2, 0, 0, 10, 0, 0, 0, 7, 3] {}).1 = .internalServerError := by
  have size : unreadable.length = 32751 := by
    rw [unreadable, List.length_cons, List.length_replicate]
  have undecoded : Message.decode garbled = .error (.invalidName unreadable) := by
    apply Wire.decode_of_unreadable_name
    · rw [size]
      decide
    · exact Utf8.decode?_eq_none (by decide) _
  have served (earlier : List Delivery) (delivery : Delivery) :
      garbling.transport earlier delivery = .error (.wire (.invalidName unreadable)) :=
    congrArg (Except.mapError Fault.wire) undecoded
  have tooLong : greatestFieldLength <
      (Fault.wire (.invalidName unreadable)).message.utf8ByteSize := by
    rw [utf8ByteSize_invalidName, size]
    decide
  have fails : garbling.FailsWith printHost jobsQuery {} (.wire (.invalidName unreadable)) :=
    ⟨by decide, served _ _⟩
  refine ⟨?_, undecoded, decode_jobsQuery, ?_⟩
  · intro earlier delivery answer answered
    rw [served] at answered
    cases answered
  · exact exchange_of_failsWith rfl decode_jobsQuery fails tooLong

end Dispatcher

end PrintProxy
