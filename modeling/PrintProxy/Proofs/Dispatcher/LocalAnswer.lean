import PrintProxy.Dispatcher
import PrintProxy.Proofs.Message.Explanation
import PrintProxy.Proofs.Operation.Response

/-!
# Answers of a local dispatcher

A dispatcher whose target is a directory answers every request itself, in every
state.  The answer arrives as it was sent whenever the request did, and its
status depends on the request's code and on the names of its attributes only.
-/

namespace PrintProxy

open Wire (greatestFieldLength)

/-- The message reports an outcome of the request, and arrives as it was sent. -/
structure Message.Answers (response request : Message) (status : Status) : Prop where
  version : response.header.version = request.header.version
  code : response.header.code = status.code
  transmissible : response.attributes.Transmissible

/-- The code is that of a supported operation. -/
def Message.IsSupported (request : Message) : Prop :=
  ∃ kind : OperationKind, kind.code.code = request.header.code

/-- The code is that of an operation on a job. -/
def Message.IsAboutJob (request : Message) : Prop :=
  request.header.code = OperationCode.sendDocument.code ∨
    request.header.code = OperationCode.cancelJob.code

instance (request : Message) : Decidable request.IsAboutJob :=
  inferInstanceAs (Decidable (_ ∨ _))

def Message.NamesJob (request : Message) : Prop :=
  request.hasAttribute AttributeName.printerUri ∧ request.hasAttribute AttributeName.jobId ∨
    request.hasAttribute AttributeName.jobUri

instance (request : Message) : Decidable request.NamesJob :=
  inferInstanceAs (Decidable (_ ∧ _ ∨ _))

theorem Message.answers_errorFor (request : Message) (status : Status) {explanation : String}
    (fits : explanation.utf8ByteSize ≤ greatestFieldLength) :
    (request.errorFor status explanation).Answers request status :=
  ⟨rfl, rfl, request.transmissible_errorFor status fits⟩

/-- The operation is the one of its request's code, and its answer can be sent. -/
structure Operation.Answerable (operation : Operation) : Prop where
  code : operation.request.header.code = operation.kind.code.code
  transmissible : operation.request.attributes.Transmissible
  presentable : ∀ printer ∈ operation.printers, printer.Presentable

theorem Operation.answerable_carrying {kind : OperationKind} {request : Message}
    (code : kind.code.code = request.header.code) (sound : request.attributes.Transmissible) :
    (carrying kind request).Answerable := by
  refine ⟨code.symm, sound, ?_⟩
  intro printer member
  cases member

namespace Operation.Answerable

variable {operation : Operation}

theorem jobId (answerable : operation.Answerable) (jobId : Int32) :
    (operation.apply (.jobId jobId)).Answerable := by
  refine ⟨answerable.code, ?_, answerable.presentable⟩
  exact answerable.transmissible.add (by decide) (Attribute.addable_jobId jobId)

theorem jobState (answerable : operation.Answerable) (state : JobState) :
    (operation.apply (.jobState state)).Answerable :=
  ⟨answerable.code, answerable.transmissible, answerable.presentable⟩

theorem jobStateReason (answerable : operation.Answerable) (reason : JobStateReason) :
    (operation.apply (.jobStateReason reason)).Answerable :=
  ⟨answerable.code, answerable.transmissible, answerable.presentable⟩

theorem printer (answerable : operation.Answerable) {printer : Uri}
    (presentable : printer.Presentable) : (operation.apply (.printer printer)).Answerable := by
  refine ⟨answerable.code, answerable.transmissible, ?_⟩
  intro other member
  rcases List.mem_append.mp member with before | last
  · exact answerable.presentable other before
  · rw [List.mem_singleton.mp last]
    exact presentable

end Operation.Answerable

namespace Message

/-- The server of the printer that a request names. -/
def printerServer? (request : Message) : Option String :=
  match request.printerUri with
  | .ok printer => printer.authority.map Authority.text
  | .error _ => none

/-- The server of the printer that a dispatcher advertises to the sender of a request. -/
def advertisingServer (request : Message) : String := request.printerServer?.getD "localhost:631"

theorem namesServer_of_printerServer? {request : Message} {server : String}
    (named : request.printerServer? = some server) : Authority.NamesServer server := by
  unfold printerServer? at named
  split at named
  · next printer found =>
      obtain ⟨text, parsed⟩ := exists_parse_of_printerUri found
      obtain ⟨authority, isAuthority, rfl⟩ := Option.map_eq_some_iff.mp named
      exact (Uri.parses_of_parse parsed).1.namesServer isAuthority
  · cases named

theorem hasNoTerminator_getD_printerServer? (request : Message) {standard : String}
    (noTerminator : Authority.HasNoTerminator standard) :
    Authority.HasNoTerminator (request.printerServer?.getD standard) := by
  cases named : request.printerServer? with
  | none => exact noTerminator
  | some server => exact (namesServer_of_printerServer? named).noTerminator

theorem namesServer_advertisingServer (request : Message) :
    Authority.NamesServer request.advertisingServer := by
  unfold advertisingServer
  cases named : request.printerServer? with
  | none => exact ⟨List.cons_ne_nil _ _, .of_all rfl, rfl⟩
  | some server => exact namesServer_of_printerServer? named

theorem hasNoTerminator_advertisingServer (request : Message) :
    Authority.HasNoTerminator request.advertisingServer :=
  request.namesServer_advertisingServer.noTerminator

end Message

namespace Dispatcher

variable (dispatcher : Dispatcher) {operation : Operation}

theorem answers_answer (answerable : operation.Answerable) :
    (answer operation).Answers operation.request .successfulOk := by
  have valid : operation.validateRequest operation.request = .ok () := by
    rw [Operation.validateRequest, if_pos answerable.code]
  rw [answer, valid]
  have header := operation.header_response
  have transmissible :=
    Operation.transmissible_response answerable.transmissible answerable.presentable
  exact ⟨by rw [header], by rw [header], transmissible⟩

/-- The advertised printer is put on the server of the request's printer. -/
theorem advertisedPrinter_eq (request : Message) :
    dispatcher.advertisedPrinter request =
      Uri.parse s!"ipp://{request.advertisingServer}/printers/{dispatcher.printerName}" := by
  unfold advertisedPrinter Message.advertisingServer Message.printerServer?
  cases request.printerUri <;> rfl

variable {dispatcher} in
theorem presentable_advertisedPrinter {request : Message} {printer : Uri}
    (advertised : dispatcher.advertisedPrinter request = .ok printer) : printer.Presentable := by
  have parsed := (dispatcher.advertisedPrinter_eq request).symm.trans advertised
  have named := Uri.utf8ByteSize_printerName_of_advertised
    request.hasNoTerminator_advertisingServer parsed
  have room : Uri.greatestLength ≤ greatestFieldLength := by decide
  refine ⟨Uri.render_fits advertised, ?_⟩
  omega

theorem answerable_advertise (answerable : operation.Answerable) :
    (dispatcher.advertise operation).Answerable := by
  unfold advertise
  split
  · split
    · next advertised => exact answerable.printer (presentable_advertisedPrinter advertised)
    · exact answerable
  · exact answerable

theorem request_advertise :
    (dispatcher.advertise operation).request = operation.request := by
  unfold advertise
  split
  · split <;> rfl
  · rfl

theorem answerable_settle (answerable : operation.Answerable) (jobId : Int32) :
    (dispatcher.settle jobId operation).Answerable := by
  unfold settle
  split
  · exact (answerable.jobId jobId).jobStateReason .none
  · exact (answerable.jobId jobId).jobStateReason .none
  · exact ((answerable.jobId jobId).jobState .pendingHeld).jobStateReason .jobIncoming
  · exact dispatcher.answerable_advertise answerable
  · exact dispatcher.answerable_advertise answerable
  · exact answerable
  · exact answerable
  · exact answerable

theorem header_settle (jobId : Int32) :
    (dispatcher.settle jobId operation).request.header = operation.request.header := by
  unfold settle
  split
  · rfl
  · rfl
  · rfl
  · rw [request_advertise]
  · rw [request_advertise]
  · rfl
  · rfl
  · rfl

theorem answers_emulate (answerable : operation.Answerable) (state : State) :
    (dispatcher.emulate operation state).1.Answers operation.request .successfulOk := by
  have settled := answers_answer (dispatcher.answerable_settle answerable (state.lastJobId + 1))
  refine ⟨?_, settled.code, settled.transmissible⟩
  rw [← dispatcher.header_settle (state.lastJobId + 1)]
  exact settled.version

variable {dispatcher} {directory : String}

theorem answers_send (isLocal : dispatcher.target = .directory directory)
    (answerable : operation.Answerable) (state : State) :
    (dispatcher.send operation state).1.Answers operation.request .successfulOk := by
  have stamped : Operation.Answerable
      { operation with request := operation.request.setRequestId state.nextRequestId } :=
    ⟨answerable.code, answerable.transmissible, answerable.presentable⟩
  have emulated := dispatcher.answers_emulate stamped
    (dispatcher.keep "request" (stamp operation.request state).1 (stamp operation.request state).2)
  unfold send
  simp only [isLocal]
  exact ⟨emulated.version, emulated.code, emulated.transmissible⟩

theorem answers_handleUnsupported (isLocal : dispatcher.target = .directory directory)
    (request : Message) (state : State) :
    (dispatcher.handleUnsupported request state).1.Answers request
      .serverErrorOperationNotSupported := by
  unfold handleUnsupported
  simp only [isLocal]
  exact request.answers_errorFor _ (utf8ByteSize_unsupported_le request.header.code)

/-- The outcome that a local dispatcher reports. -/
def localStatus (request : Message) : Status :=
  match OperationKind.ofCode? request.header.code with
  | none => .serverErrorOperationNotSupported
  | some kind =>
      if kind.addressee = .job ∧ ¬request.NamesJob then .clientErrorBadRequest else .successfulOk

section

variable {request : Message}

theorem isAboutJob_iff {kind : OperationKind} (code : kind.code.code = request.header.code) :
    request.IsAboutJob ↔ kind.addressee = .job := by
  unfold Message.IsAboutJob
  rw [← code]
  cases kind <;> decide

theorem makesJob_eq_false {kind : OperationKind} (noAddressee : kind.addressee = .nothing) :
    kind.makesJob = false := by
  cases kind <;> first | rfl | cases noAddressee

theorem isSupported_of_isAboutJob (aboutJob : request.IsAboutJob) : request.IsSupported := by
  rcases aboutJob with same | same
  · exact ⟨.sendDocument, same.symm⟩
  · exact ⟨.cancelJob, same.symm⟩

theorem localStatus_of_unsupported (unsupported : ¬request.IsSupported) :
    localStatus request = .serverErrorOperationNotSupported := by
  unfold localStatus
  split
  · rfl
  · next kind found =>
      exact False.elim (unsupported ⟨kind, OperationKind.ofCode?_eq_some_iff.mp found⟩)

theorem localStatus_of_supported (supported : request.IsSupported) :
    localStatus request =
      if request.IsAboutJob ∧ ¬request.NamesJob then .clientErrorBadRequest else .successfulOk := by
  obtain ⟨kind, code⟩ := supported
  unfold localStatus
  rw [OperationKind.ofCode?_eq_some_iff.mpr code]
  simp only [isAboutJob_iff code]

theorem localStatus_eq_unsupported_iff :
    localStatus request = .serverErrorOperationNotSupported ↔ ¬request.IsSupported := by
  by_cases supported : request.IsSupported
  · rw [localStatus_of_supported supported]
    split <;> simp [supported]
  · simp [localStatus_of_unsupported supported, supported]

theorem localStatus_eq_badRequest_iff :
    localStatus request = .clientErrorBadRequest ↔ request.IsAboutJob ∧ ¬request.NamesJob := by
  by_cases supported : request.IsSupported
  · rw [localStatus_of_supported supported]
    split
    · next unnamed => simp [unnamed]
    · next named => simp [named]
  · have notAboutJob : ¬request.IsAboutJob := fun aboutJob =>
      supported (isSupported_of_isAboutJob aboutJob)
    simp [localStatus_of_unsupported supported, notAboutJob]

theorem localStatus_eq_successfulOk_iff :
    localStatus request = .successfulOk ↔
      request.IsSupported ∧ (request.IsAboutJob → request.NamesJob) := by
  by_cases supported : request.IsSupported
  · rw [localStatus_of_supported supported]
    split
    · next unnamed => simp [unnamed]
    · next named => simpa [supported] using named
  · simp [localStatus_of_unsupported supported, supported]

end

theorem validateTarget_of_job {request : Message} (aboutJob : operation.kind.addressee = .job) :
    operation.validateTarget request =
      if request.NamesJob then .ok () else .error (.refused (.noJob request.header)) := by
  rw [Operation.validateTarget, aboutJob]
  simp only [Bool.or_eq_true, Bool.and_eq_true]
  rfl

theorem answers_handleOperation (isLocal : dispatcher.target = .directory directory)
    (answerable : operation.Answerable) (state : State) :
    (dispatcher.handleOperation operation state).1.Answers operation.request
      (localStatus operation.request) := by
  have supported : OperationKind.ofCode? operation.request.header.code = some operation.kind :=
    OperationKind.ofCode?_eq_some_iff.mpr answerable.code.symm
  unfold handleOperation localStatus
  rw [supported]
  split
  · next noAddressee =>
      simp only [noAddressee, reduceCtorEq, false_and, if_false]
      exact dispatcher.answers_emulate answerable state
  · next aboutPrinter =>
      simp only [aboutPrinter, reduceCtorEq, false_and, if_false]
      exact answers_send isLocal answerable state
  · next aboutJob =>
      rw [validateTarget_of_job aboutJob]
      by_cases named : operation.request.NamesJob
      · simp only [named, if_true, not_true, and_false, if_false]
        exact answers_send isLocal answerable state
      · simp only [named, aboutJob, if_false, not_false_eq_true, and_self, if_true]
        exact operation.request.answers_errorFor _ (utf8ByteSize_noJob_le _)

theorem answers_handle (isLocal : dispatcher.target = .directory directory) {request : Message}
    (sound : request.attributes.Transmissible) (state : State) :
    (dispatcher.handle request state).1.Answers request (localStatus request) := by
  unfold handle
  dsimp only
  split
  · next unsupported =>
      have answered := answers_handleUnsupported isLocal request state
      rw [localStatus, unsupported]
      exact ⟨answered.version, answered.code, answered.transmissible⟩
  · next kind supported =>
      have answerable :=
        Operation.answerable_carrying (OperationKind.ofCode?_eq_some_iff.mp supported) sound
      have answered := answers_handleOperation isLocal answerable state
      exact ⟨answered.version, answered.code, answered.transmissible⟩

theorem status_handle (isLocal : dispatcher.target = .directory directory) {request : Message}
    (sound : request.attributes.Transmissible) (state : State) :
    (dispatcher.handle request state).1.header.status = localStatus request := by
  rw [Header.status, (answers_handle isLocal sound state).code, Status.ofCode_code]

@[simp] theorem requestId_handle (request : Message) (state : State) :
    (dispatcher.handle request state).1.header.requestId = request.header.requestId :=
  rfl

end Dispatcher

end PrintProxy
