import PrintProxy.Proofs.Dispatcher.LocalStep
import PrintProxy.Proofs.Dispatcher.Transcript
import PrintProxy.Proofs.Http.LocalExchange
import PrintProxy.Proofs.Operation.Ticket

/-!
# Runs of tickets

A fresh dispatcher whose target is a directory takes one ticket after another,
each from some user.  Every answer reports success under the number of its
ticket, and the answers that make jobs number them, whatever the tickets state.
-/

namespace PrintProxy

/-- The answer to the ticket of a turn, which has the given job if it makes one. -/
structure Ticket.Answered (ticket : Ticket) (turn job : Nat) (response : Message) : Prop where
  status : response.header.status = .successfulOk
  requestId : response.header.requestId.toInt = turn
  payload : response.payload = []
  number : ticket.kind.makesJob →
    ∃ number : Int32, number.toInt = job ∧ response.jobId = .ok number
  printed : ticket.kind = .printJob ∨ ticket.kind = .sendDocument →
    response.jobState = .ok .completed ∧ response.jobStateReason = .ok .none
  created : ticket.kind = .createJob →
    response.jobState = .ok .pendingHeld ∧ response.jobStateReason = .ok .jobIncoming
  cancelled : ∀ printer jobId userNames, ticket = .cancelJob printer jobId userNames →
    response.jobId = .ok jobId

namespace Dispatcher

variable {dispatcher : Dispatcher} {directory : String} {operation : Operation}

theorem handedIn_stamped (handedIn : operation.HandedIn) (state : State) :
    (stamped operation state).HandedIn :=
  handedIn.apply (.requestId state.nextRequestId) id

theorem states_send_of_prints (isLocal : dispatcher.target = .directory directory)
    (handedIn : operation.HandedIn)
    (prints : operation.kind = .printJob ∨ operation.kind = .sendDocument) (state : State) :
    (dispatcher.send operation state).1.jobState = .ok .completed ∧
      (dispatcher.send operation state).1.jobStateReason = .ok .none := by
  have numbered := (handedIn_stamped handedIn state).apply (.jobId (state.lastJobId + 1)) id
  have printsStamped : (stamped operation state).kind = .printJob ∨
      (stamped operation state).kind = .sendDocument := prints
  rw [fst_send isLocal handedIn.code, settle_of_prints printsStamped]
  constructor
  · apply Operation.jobState_response_of_prints
    · exact numbered.orderly.leavesRoom_jobState (by decide)
    · exact prints
    · exact numbered.undecided
  · apply Operation.jobStateReason_response
    · exact numbered.orderly.leavesRoom_jobState (by decide)
    · rfl

theorem states_send_of_creates (isLocal : dispatcher.target = .directory directory)
    (handedIn : operation.HandedIn) (creates : operation.kind = .createJob) (state : State) :
    (dispatcher.send operation state).1.jobState = .ok .pendingHeld ∧
      (dispatcher.send operation state).1.jobStateReason = .ok .jobIncoming := by
  have numbered := (handedIn_stamped handedIn state).apply (.jobId (state.lastJobId + 1)) id
  have createsStamped : (stamped operation state).kind = .createJob := creates
  rw [fst_send isLocal handedIn.code, settle_of_creates createsStamped]
  constructor
  · apply Operation.jobState_response_of_decided
    · exact numbered.orderly.leavesRoom_jobState (by decide)
    · rfl
  · apply Operation.jobStateReason_response
    · exact numbered.orderly.leavesRoom_jobState (by decide)
    · rfl

theorem jobId_send_of_cancels (isLocal : dispatcher.target = .directory directory)
    (code : operation.request.header.code = operation.kind.code.code)
    (cancels : operation.kind = .cancelJob) (state : State) :
    (dispatcher.send operation state).1.jobId = operation.request.jobId := by
  have cancelsStamped : (stamped operation state).kind = .cancelJob := cancels
  have untouched : dispatcher.settle (state.lastJobId + 1) (stamped operation state) =
      stamped operation state := by
    unfold settle
    simp only [cancelsStamped]
  rw [fst_send isLocal code, untouched, Operation.jobId_response]
  rfl

/-- Has a user's ticket answered. -/
def sendTicket (dispatcher : Dispatcher) (order : Ticket × String) (state : State) :
    Message × State :=
  dispatcher.send (order.1.operation order.2) state

/-- What a state says about the next request and the next job, the answer repeats. -/
theorem answered_sendTicket (isLocal : dispatcher.target = .directory directory)
    (ticket : Ticket) (user : String) {state : State} {turn job : Nat}
    (isTurn : state.nextRequestId.toInt = turn) (isJob : (state.lastJobId + 1).toInt = job) :
    ticket.Answered turn job (dispatcher.sendTicket (ticket, user) state).1 := by
  have handedIn := ticket.handedIn_operation user
  have kind := ticket.kind_operation user
  have header := header_send isLocal handedIn.code state
  have payload : (dispatcher.send (ticket.operation user) state).1.payload = [] := by
    rw [fst_send isLocal handedIn.code, Operation.payload_response]
  constructor
  case status => rw [sendTicket, header, Header.status, Status.ofCode_code]
  case requestId => rw [sendTicket, header, isTurn]
  case payload => exact payload
  case number =>
    intro makes
    rw [← kind] at makes
    refine ⟨_, isJob, ?_⟩
    rw [sendTicket, jobId_send isLocal handedIn.code makes]
    exact Message.jobId_setJobId_of_leavesRoom handedIn.orderly.leavesRoom_jobId _
  case printed =>
    intro prints
    rw [← kind] at prints
    exact states_send_of_prints isLocal handedIn prints state
  case created =>
    intro creates
    rw [← kind] at creates
    exact states_send_of_creates isLocal handedIn creates state
  case cancelled =>
    rintro printer jobId userNames rfl
    rw [sendTicket, jobId_send_of_cancels isLocal handedIn.code kind]
    exact Ticket.jobId_operation_cancelJob printer jobId userNames user

theorem nextRequestId_stateAfter_sendTicket (isLocal : dispatcher.target = .directory directory)
    (orders : List (Ticket × String)) (state : State) :
    (stateAfter dispatcher.sendTicket orders state).nextRequestId =
      state.nextRequestId + Int32.ofNat orders.length := by
  have each (order : Ticket × String) (state : State) :
      (dispatcher.sendTicket order state).2.nextRequestId =
        if true then state.nextRequestId + 1 else state.nextRequestId := by
    rw [if_pos rfl, sendTicket, nextRequestId_send isLocal]
  rw [counter_stateAfter State.nextRequestId (fun _ => true) each, List.countP_true,
    length_transcript]

theorem lastJobId_stateAfter_sendTicket (isLocal : dispatcher.target = .directory directory)
    (orders : List (Ticket × String)) (state : State) :
    (stateAfter dispatcher.sendTicket orders state).lastJobId =
      state.lastJobId +
        Int32.ofNat ((transcript dispatcher.sendTicket orders state).countP
          (·.1.1.kind.makesJob)) := by
  apply counter_stateAfter State.lastJobId
  intro order state
  have counted := lastJobId_send isLocal (order.1.operation order.2) state
  rwa [Ticket.kind_operation] at counted

/-- The nth ticket of a run is answered as the nth, and the kth job is reported as the kth. -/
theorem transcript_answers_tickets (isLocal : dispatcher.target = .directory directory)
    (orders : List (Ticket × String)) (few : orders.length < 2 ^ 31) :
    ∀ before ticket user response after,
      transcript dispatcher.sendTicket orders {} = before ++ ((ticket, user), response) :: after →
      ticket.Answered (before.length + 1) (before.countP (·.1.1.kind.makesJob) + 1) response := by
  intro before ticket user response after split
  obtain ⟨earlier, rfl⟩ := transcript_split split
  have short := length_lt_of_split split
  have made : before.countP (·.1.1.kind.makesJob) ≤ before.length := List.countP_le_length
  apply answered_sendTicket isLocal
  · rw [nextRequestId_stateAfter_sendTicket isLocal, List.length_map, Int32.add_comm]
    exact toInt_ofNat_add_one (by omega)
  · rw [lastJobId_stateAfter_sendTicket isLocal, earlier, Int32.zero_add]
    exact toInt_ofNat_add_one (by omega)

/-- A ticket for a job that states a number and a state of its own. -/
def presumptuous : Ticket :=
  .createJob unnamedPrinter
    [.jobAttribute (.ofValue AttributeName.jobId (.integer 99)),
      .jobAttribute (.ofValue AttributeName.jobState (.enum JobState.completed.number))]

theorem transcript_answers_tickets_presumptuous :
    let (response, state) := unconnected.sendTicket (presumptuous, "alice") {}
    let cancellation : Ticket := .cancelJob unnamedPrinter 5 []
    response.jobId = .ok 1 ∧ response.jobState = .ok .pendingHeld ∧
      (unconnected.sendTicket (cancellation, "bob") state).1.header.requestId.toInt = 2 ∧
      (unconnected.sendTicket (cancellation, "bob") state).1.jobId = .ok 5 := by
  have isLocal : unconnected.target = .directory "/tmp/IPP" := rfl
  have answered := transcript_answers_tickets isLocal
    [(presumptuous, "alice"), (.cancelJob unnamedPrinter 5 [], "bob")] (by decide)
  have first := answered [] presumptuous "alice" _ _ rfl
  have second := answered [_] (.cancelJob unnamedPrinter 5 []) "bob" _ [] rfl
  obtain ⟨number, isFirst, reported⟩ := first.number rfl
  have isOne : number = 1 := Int32.toInt_inj.mp isFirst
  rw [isOne] at reported
  exact ⟨reported, (first.created rfl).1, second.requestId, second.cancelled _ _ _ rfl⟩

end Dispatcher

end PrintProxy
