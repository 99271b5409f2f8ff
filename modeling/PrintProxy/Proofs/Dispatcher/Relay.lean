import PrintProxy.Proofs.Dispatcher.LocalAnswer
import PrintProxy.Proofs.Dispatcher.Transcript

/-!
# Relaying to a server

A dispatcher whose target is a server delivers every request but those about the
proxy's own printers and those about a job that they do not name.  What it
delivers is the request under a number of its own; what comes back is answered
under the caller's number.
-/

namespace PrintProxy

/-- A server gets to see the request. -/
def Message.IsRelayed (request : Message) : Prop :=
  request.header.code ≠ OperationCode.cupsGetDefault.code ∧
    request.header.code ≠ OperationCode.cupsGetPrinters.code ∧
    (request.IsAboutJob → request.NamesJob)

instance (request : Message) : Decidable request.IsRelayed :=
  inferInstanceAs (Decidable (_ ∧ _ ∧ _))

/-- A delivery passes a request on to a server, as the one of its turn. -/
structure Delivery.Passes (delivery : Delivery) (server : Uri) (request : Message) (turn : Nat) :
    Prop where
  named : ∀ printer, request.printerUri = .ok printer →
    delivery.destination = printer.withDefaultPort server.port?
  unnamed : ∀ fault, request.printerUri = .error fault → delivery.destination = server
  version : delivery.request.header.version = request.header.version
  code : delivery.request.header.code = request.header.code
  requestId : delivery.request.header.requestId.toInt = turn
  attributes : delivery.request.attributes = request.attributes
  payload : delivery.request.payload = request.payload

namespace Dispatcher

variable {dispatcher : Dispatcher} {server : Uri} {request : Message}

/-- What is delivered for a request that is given an id. -/
def deliveryOf (server : Uri) (request : Message) (requestId : Int32) : Delivery :=
  ⟨destination server request, request.setRequestId requestId⟩

/-- The state in which a request was delivered. -/
def State.delivering (state : State) (server : Uri) (request : Message) : State :=
  { state with
    nextRequestId := state.nextRequestId + 1
    deliveries := state.deliveries ++ [deliveryOf server request state.nextRequestId] }

/-- What comes back, as it is passed to the caller. -/
def returned (request : Message) : Except Fault Message → Message
  | .ok answer => answer.setRequestId request.header.requestId
  | .error fault => request.errorFor .serverErrorInternalError fault.message

/-- The id of a request does not matter to where it is delivered. -/
theorem transport_stamp (dispatcher : Dispatcher) (server : Uri) (request : Message)
    (state : State) :
    dispatcher.transport (stamp request state).2.deliveries
        ⟨destination server (stamp request state).1, (stamp request state).1⟩ =
      dispatcher.transport state.deliveries (deliveryOf server request state.nextRequestId) :=
  rfl

theorem forward_stamp (dispatcher : Dispatcher) (server : Uri) (request : Message)
    (state : State) :
    let forwarded := dispatcher.forward server (stamp request state).1 (stamp request state).2
    (forwarded.1.setRequestId request.header.requestId, forwarded.2) =
      (returned request
          (dispatcher.transport state.deliveries (deliveryOf server request state.nextRequestId)),
        state.delivering server request) := by
  unfold forward
  dsimp only
  rw [transport_stamp]
  generalize dispatcher.transport state.deliveries _ = back
  cases back <;> rfl

theorem keep_of_server (isServer : dispatcher.target = .server server) (kind : String)
    (message : Message) (state : State) : dispatcher.keep kind message state = state := by
  simp [keep, isServer, ForwardTarget.isLocal]

theorem send_of_server (isServer : dispatcher.target = .server server) (operation : Operation)
    (state : State) :
    dispatcher.send operation state =
      dispatcher.forward server (stamp operation.request state).1
        (stamp operation.request state).2 := by
  unfold send
  simp only [isServer, keep_of_server isServer]

theorem handleUnsupported_of_server (isServer : dispatcher.target = .server server)
    (request : Message) (state : State) :
    dispatcher.handleUnsupported request state =
      dispatcher.forward server (stamp request state).1 (stamp request state).2 := by
  unfold handleUnsupported
  simp only [isServer]

theorem isRelayed_of_unsupported (unsupported : OperationKind.ofCode? request.header.code = none) :
    request.IsRelayed := by
  have otherCode (kind : OperationKind) : request.header.code ≠ kind.code.code := by
    intro same
    rw [same, OperationKind.ofCode?_code] at unsupported
    cases unsupported
  refine ⟨otherCode .getDefault, otherCode .getPrinters, ?_⟩
  rintro (same | same)
  · exact absurd same (otherCode .sendDocument)
  · exact absurd same (otherCode .cancelJob)

theorem isRelayed_iff {kind : OperationKind} (code : kind.code.code = request.header.code) :
    request.IsRelayed ↔
      kind.addressee ≠ .nothing ∧ (kind.addressee = .job → request.NamesJob) := by
  have addressed : (request.header.code ≠ OperationCode.cupsGetDefault.code ∧
      request.header.code ≠ OperationCode.cupsGetPrinters.code) ↔
        kind.addressee ≠ .nothing := by
    rw [← code]
    cases kind <;> decide
  rw [Message.IsRelayed, ← and_assoc, addressed, isAboutJob_iff code]

theorem handleOperation_of_isRelayed {kind : OperationKind}
    (code : kind.code.code = request.header.code) (relayed : request.IsRelayed) (state : State) :
    dispatcher.handleOperation (.carrying kind request) state =
      dispatcher.send (.carrying kind request) state := by
  obtain ⟨addressed, named⟩ := (isRelayed_iff code).mp relayed
  have target : (Operation.carrying kind request).kind.addressee = kind.addressee := rfl
  unfold handleOperation
  cases addressee : kind.addressee with
  | nothing => exact absurd addressee addressed
  | printer => simp only [target, addressee]
  | job =>
      have valid : (Operation.carrying kind request).validateTarget
          (Operation.carrying kind request).request = .ok () :=
        (validateTarget_of_job addressee).trans (if_pos (named addressee))
      simp only [target, addressee, valid]

/-- What is relayed is delivered, whether or not it is supported. -/
theorem handle_of_isRelayed (isServer : dispatcher.target = .server server)
    (relayed : request.IsRelayed) (state : State) :
    dispatcher.handle request state =
      (returned request
          (dispatcher.transport state.deliveries (deliveryOf server request state.nextRequestId)),
        state.delivering server request) := by
  have forwarded := dispatcher.forward_stamp server request state
  unfold handle
  dsimp only
  split
  · rw [handleUnsupported_of_server isServer]
    exact forwarded
  · next kind supported =>
      have code := OperationKind.ofCode?_eq_some_iff.mp supported
      rw [handleOperation_of_isRelayed code relayed, send_of_server isServer]
      exact forwarded

/-- An operation whose request is not relayed is answered on the spot or refused. -/
theorem handleOperation_of_not_isRelayed (dispatcher : Dispatcher) {kind : OperationKind}
    (code : kind.code.code = request.header.code) (notRelayed : ¬request.IsRelayed)
    (state : State) :
    kind.makesJob = false ∧
        dispatcher.handleOperation (.carrying kind request) state =
          dispatcher.emulate (.carrying kind request) state ∨
      dispatcher.handleOperation (.carrying kind request) state =
        (request.errorFor .clientErrorBadRequest (Fault.refused (.noJob request.header)).message,
          state) := by
  have target : (Operation.carrying kind request).kind.addressee = kind.addressee := rfl
  rw [isRelayed_iff code] at notRelayed
  unfold handleOperation
  cases addressee : kind.addressee with
  | nothing =>
      left
      refine ⟨makesJob_eq_false addressee, ?_⟩
      simp only [target, addressee]
  | printer => simp [addressee] at notRelayed
  | job =>
      right
      have unnamed : ¬request.NamesJob := by simpa [addressee] using notRelayed
      have invalid : (Operation.carrying kind request).validateTarget
          (Operation.carrying kind request).request =
            .error (.refused (.noJob request.header)) :=
        (validateTarget_of_job addressee).trans (if_neg unnamed)
      simp only [target, addressee, invalid]
      rfl

def printHost : Uri := ⟨some "http", some ⟨"printhost:8631"⟩, "/", none⟩

/-- A dispatcher whose server acknowledges everything. -/
def acknowledged : Dispatcher :=
  { target := .server printHost
    printerName := "relay"
    recording := false
    transport := fun _ delivery => .ok (Message.responseFor delivery.request) }

end Dispatcher

end PrintProxy
