import PrintProxy.Proofs.Dispatcher.LocalAnswer
import PrintProxy.Proofs.Operation.JobReport

/-!
# Single steps of a local dispatcher

What one call does to the counters, and how its response numbers the job.
Recording is the only other thing that changes the state.
-/

namespace PrintProxy

/-- The code is that of an operation that makes a job. -/
def Message.AsksForJob (request : Message) : Prop :=
  request.header.code = OperationCode.printJob.code ∨
    request.header.code = OperationCode.createJob.code ∨
    request.header.code = OperationCode.sendDocument.code

instance (request : Message) : Decidable request.AsksForJob :=
  inferInstanceAs (Decidable (_ ∨ _ ∨ _))

namespace Dispatcher

variable {dispatcher : Dispatcher} {operation : Operation} {request : Message}

theorem asksForJob_iff {kind : OperationKind} (code : kind.code.code = request.header.code) :
    request.AsksForJob ↔ kind.makesJob := by
  unfold Message.AsksForJob
  rw [← code]
  cases kind <;> decide

section

variable (dispatcher) (kind : String) (message : Message) (state : State)

theorem keep_eq : ∃ records, dispatcher.keep kind message state = { state with records } := by
  unfold keep
  split
  · split
    · exact ⟨_, rfl⟩
    · exact ⟨state.records, rfl⟩
  · exact ⟨state.records, rfl⟩

@[simp] theorem nextRequestId_keep :
    (dispatcher.keep kind message state).nextRequestId = state.nextRequestId := by
  obtain ⟨records, kept⟩ := dispatcher.keep_eq kind message state
  rw [kept]

@[simp] theorem lastJobId_keep :
    (dispatcher.keep kind message state).lastJobId = state.lastJobId := by
  obtain ⟨records, kept⟩ := dispatcher.keep_eq kind message state
  rw [kept]

end

theorem settle_of_prints (prints : operation.kind = .printJob ∨ operation.kind = .sendDocument)
    (jobId : Int32) :
    dispatcher.settle jobId operation =
      operation.applyAll [.jobId jobId, .jobStateReason .none] := by
  unfold settle
  rcases prints with kind | kind <;> simp only [kind]

theorem settle_of_creates (creates : operation.kind = .createJob) (jobId : Int32) :
    dispatcher.settle jobId operation =
      operation.applyAll [.jobId jobId, .jobState .pendingHeld, .jobStateReason .jobIncoming] := by
  unfold settle
  simp only [creates]

theorem makesJob_iff {kind : OperationKind} :
    kind.makesJob ↔ (kind = .printJob ∨ kind = .sendDocument) ∨ kind = .createJob := by
  cases kind <;> decide

theorem request_settle_of_makesJob (makes : operation.kind.makesJob) (jobId : Int32) :
    (dispatcher.settle jobId operation).request = operation.request.setJobId jobId := by
  rcases makesJob_iff.mp makes with prints | creates
  · rw [settle_of_prints prints]
    rfl
  · rw [settle_of_creates creates]
    rfl

theorem kind_advertise : (dispatcher.advertise operation).kind = operation.kind := by
  unfold advertise
  split
  · split <;> rfl
  · rfl

theorem kind_settle (jobId : Int32) :
    (dispatcher.settle jobId operation).kind = operation.kind := by
  unfold settle
  split <;> first | rfl | exact kind_advertise

theorem fst_emulate (code : operation.request.header.code = operation.kind.code.code)
    (state : State) :
    (dispatcher.emulate operation state).1 =
      (dispatcher.settle (state.lastJobId + 1) operation).response := by
  have valid : (dispatcher.settle (state.lastJobId + 1) operation).validateRequest
      (dispatcher.settle (state.lastJobId + 1) operation).request = .ok () := by
    rw [Operation.validateRequest, if_pos]
    rw [header_settle, kind_settle, code]
  simp only [emulate, answer, valid]

theorem lastJobId_emulate (state : State) :
    (dispatcher.emulate operation state).2.lastJobId =
      if operation.kind.makesJob then state.lastJobId + 1 else state.lastJobId := by
  unfold emulate
  split <;> rfl

theorem nextRequestId_emulate (state : State) :
    (dispatcher.emulate operation state).2.nextRequestId = state.nextRequestId := by
  unfold emulate
  dsimp only
  split <;> rfl

variable {directory : String}

/-- The operation as it is sent: under the next request id. -/
def stamped (operation : Operation) (state : State) : Operation :=
  { operation with request := operation.request.setRequestId state.nextRequestId }

/-- What an operation is answered from: the state with its request counted and recorded. -/
def recorded (dispatcher : Dispatcher) (operation : Operation) (state : State) : State :=
  dispatcher.keep "request" (stamped operation state).request
    { state with nextRequestId := state.nextRequestId + 1 }

theorem send_eq (isLocal : dispatcher.target = .directory directory) (operation : Operation)
    (state : State) :
    dispatcher.send operation state =
      let answered :=
        dispatcher.emulate (stamped operation state) (dispatcher.recorded operation state)
      (answered.1, dispatcher.keep "response" answered.1 answered.2) := by
  unfold send
  simp only [isLocal]
  rfl

theorem fst_send (isLocal : dispatcher.target = .directory directory)
    (code : operation.request.header.code = operation.kind.code.code) (state : State) :
    (dispatcher.send operation state).1 =
      (dispatcher.settle (state.lastJobId + 1) (stamped operation state)).response := by
  have sameCode : (stamped operation state).request.header.code =
      (stamped operation state).kind.code.code := code
  rw [send_eq isLocal]
  dsimp only
  rw [fst_emulate sameCode, recorded, lastJobId_keep]

theorem lastJobId_send (isLocal : dispatcher.target = .directory directory)
    (operation : Operation) (state : State) :
    (dispatcher.send operation state).2.lastJobId =
      if operation.kind.makesJob then state.lastJobId + 1 else state.lastJobId := by
  rw [send_eq isLocal]
  dsimp only
  rw [lastJobId_keep, lastJobId_emulate, recorded, lastJobId_keep]
  rfl

theorem nextRequestId_send (isLocal : dispatcher.target = .directory directory)
    (operation : Operation) (state : State) :
    (dispatcher.send operation state).2.nextRequestId = state.nextRequestId + 1 := by
  rw [send_eq isLocal]
  dsimp only
  rw [nextRequestId_keep, nextRequestId_emulate, recorded, nextRequestId_keep]

theorem header_send (isLocal : dispatcher.target = .directory directory)
    (code : operation.request.header.code = operation.kind.code.code) (state : State) :
    (dispatcher.send operation state).1.header =
      ⟨operation.request.header.version, Status.successfulOk.code, state.nextRequestId⟩ := by
  rw [fst_send isLocal code, Operation.header_response, header_settle]
  rfl

/-- The response numbers the job as the request does once it has been given the next number. -/
theorem jobId_send (isLocal : dispatcher.target = .directory directory)
    (code : operation.request.header.code = operation.kind.code.code)
    (makes : operation.kind.makesJob) (state : State) :
    (dispatcher.send operation state).1.jobId =
      (operation.request.setJobId (state.lastJobId + 1)).jobId := by
  have makesStamped : (stamped operation state).kind.makesJob := makes
  rw [fst_send isLocal code, Operation.jobId_response, request_settle_of_makesJob makesStamped]
  rfl

/-- The request makes a job: it asks for one and is not refused. -/
def MakesJob (exchange : Message × Message) : Prop :=
  exchange.1.AsksForJob ∧ exchange.2.header.status.isSuccess

instance (exchange : Message × Message) : Decidable (MakesJob exchange) :=
  inferInstanceAs (Decidable (_ ∧ _))

/-- What has been answered is given the next number if it makes a job, and none otherwise. -/
def GivesNumber (request : Message) (state : State) (answered : Message × State) : Prop :=
  if MakesJob (request, answered.1) then
    answered.2.lastJobId = state.lastJobId + 1 ∧
      answered.1.jobId = (request.setJobId (state.lastJobId + 1)).jobId
  else answered.2.lastJobId = state.lastJobId

theorem givesNumber_of_not_makesJob {state : State} {answered : Message × State}
    (makesNone : ¬MakesJob (request, answered.1))
    (same : answered.2.lastJobId = state.lastJobId) : GivesNumber request state answered := by
  rw [GivesNumber, if_neg makesNone]
  exact same

theorem not_isSuccess_errorFor {status : Status} (failure : status.isSuccess = false)
    (request : Message) (explanation : String) :
    ¬(request.errorFor status explanation).header.status.isSuccess := by
  have reported : (request.errorFor status explanation).header.status = status :=
    Status.ofCode_code status
  simp [reported, failure]

theorem givesNumber_send (isLocal : dispatcher.target = .directory directory)
    (code : operation.request.header.code = operation.kind.code.code) (state : State) :
    GivesNumber operation.request state (dispatcher.send operation state) := by
  have successful : (dispatcher.send operation state).1.header.status.isSuccess := by
    rw [header_send isLocal code, Header.status, Status.ofCode_code]
    decide
  have counted := lastJobId_send isLocal operation state
  by_cases asks : operation.request.AsksForJob
  · have makes := (asksForJob_iff code.symm).mp asks
    rw [GivesNumber, if_pos ⟨asks, successful⟩]
    rw [if_pos makes] at counted
    exact ⟨counted, jobId_send isLocal code makes state⟩
  · rw [if_neg fun makes => asks ((asksForJob_iff code.symm).mpr makes)] at counted
    exact givesNumber_of_not_makesJob (fun made => asks made.1) counted

theorem givesNumber_handleUnsupported (isLocal : dispatcher.target = .directory directory)
    (request : Message) (state : State) :
    GivesNumber request state (dispatcher.handleUnsupported request state) := by
  unfold handleUnsupported
  simp only [isLocal]
  apply givesNumber_of_not_makesJob
  · intro made
    exact not_isSuccess_errorFor rfl request _ made.2
  · rfl

theorem givesNumber_handleOperation (isLocal : dispatcher.target = .directory directory)
    (operation : Operation) (code : operation.request.header.code = operation.kind.code.code)
    (state : State) :
    GivesNumber operation.request state (dispatcher.handleOperation operation state) := by
  unfold handleOperation
  split
  · next aboutPrinters =>
      have makesNone : ¬operation.kind.makesJob := by
        rw [makesJob_eq_false aboutPrinters]
        exact Bool.false_ne_true
      apply givesNumber_of_not_makesJob
      · intro made
        exact makesNone ((asksForJob_iff code.symm).mp made.1)
      · rw [lastJobId_emulate, if_neg makesNone]
  · exact givesNumber_send isLocal code state
  · split
    · exact givesNumber_send isLocal code state
    · apply givesNumber_of_not_makesJob
      · intro made
        exact not_isSuccess_errorFor rfl operation.request _ made.2
      · rfl

/-- A request that makes a job is given the next number, and no other request is given one. -/
theorem givesNumber_handle (isLocal : dispatcher.target = .directory directory)
    (request : Message) (state : State) :
    GivesNumber request state (dispatcher.handle request state) := by
  unfold handle
  dsimp only
  split
  · exact givesNumber_handleUnsupported isLocal request state
  · next kind supported =>
      have code := OperationKind.ofCode?_eq_some_iff.mp supported
      exact givesNumber_handleOperation isLocal (.carrying kind request) code.symm state

end Dispatcher

end PrintProxy
