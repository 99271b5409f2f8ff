import PrintProxy.Proofs.Dispatcher.JobNumbering

/-!
# Answers that depend on nothing else

The id under which a local dispatcher counts a request is erased from the answer
again.  What is left of the dispatcher's memory is the number of the next job,
and only an answer that makes a job shows it.  The number does not depend on the
order of the requests before, so neither does any answer.
-/

namespace PrintProxy

namespace Operation

/-- An answer under another id differs in the id only. -/
theorem response_apply_requestId (operation : Operation) (requestId : Int32) :
    (operation.apply (.requestId requestId)).response =
      operation.response.setRequestId requestId := by
  rw [response_eq, response_eq]
  rfl

end Operation

/-- A local dispatcher makes a job of the request. -/
def Message.StartsJob (request : Message) : Prop :=
  request.AsksForJob ∧ (request.IsAboutJob → request.NamesJob)

instance (request : Message) : Decidable request.StartsJob :=
  inferInstanceAs (Decidable (_ ∧ _))

namespace Dispatcher

variable {dispatcher : Dispatcher} {operation : Operation} {request : Message}

theorem settle_apply_requestId (jobId requestId : Int32) :
    dispatcher.settle jobId (operation.apply (.requestId requestId)) =
      (dispatcher.settle jobId operation).apply (.requestId requestId) := by
  have sameKind : (operation.apply (.requestId requestId)).kind = operation.kind := rfl
  have advertises : dispatcher.advertise (operation.apply (.requestId requestId)) =
      (dispatcher.advertise operation).apply (.requestId requestId) := by
    have samePrinters :
        (operation.apply (.requestId requestId)).printers = operation.printers := rfl
    have samePrinter :
        dispatcher.advertisedPrinter (operation.apply (.requestId requestId)).request =
          dispatcher.advertisedPrinter operation.request := rfl
    unfold advertise
    rw [samePrinters, samePrinter]
    split
    · split <;> rfl
    · rfl
  unfold settle
  rw [sameKind]
  split
  · rfl
  · rfl
  · rfl
  · exact advertises
  · exact advertises
  · rfl
  · rfl
  · rfl

theorem settle_of_not_makesJob (makesNone : operation.kind.makesJob = false)
    (jobId other : Int32) :
    dispatcher.settle jobId operation = dispatcher.settle other operation := by
  unfold settle
  split
  · next kind => rw [kind] at makesNone; cases makesNone
  · next kind => rw [kind] at makesNone; cases makesNone
  · next kind => rw [kind] at makesNone; cases makesNone
  all_goals rfl

variable {directory : String}

/-- The id that an operation is sent under is found in the answer's header and nowhere else. -/
theorem fst_send_eq (isLocal : dispatcher.target = .directory directory)
    (code : operation.request.header.code = operation.kind.code.code) (state : State) :
    (dispatcher.send operation state).1 =
      (dispatcher.settle (state.lastJobId + 1) operation).response.setRequestId
        state.nextRequestId := by
  have isStamped : stamped operation state = operation.apply (.requestId state.nextRequestId) := rfl
  rw [fst_send isLocal code, isStamped, settle_apply_requestId, Operation.response_apply_requestId]

theorem fst_handle_of_unsupported (isLocal : dispatcher.target = .directory directory)
    (unsupported : ¬request.IsSupported) :
    ∃ explanation, ∀ state, (dispatcher.handle request state).1 =
      request.errorFor .serverErrorOperationNotSupported explanation := by
  have noKind : OperationKind.ofCode? request.header.code = none := by
    rw [Option.eq_none_iff_forall_not_mem]
    intro kind found
    exact unsupported ⟨kind, OperationKind.ofCode?_eq_some_iff.mp found⟩
  refine ⟨s!"operation 0x{Numeral.hex 4 request.header.code.toNat} is not supported", ?_⟩
  intro state
  simp only [handle, noKind, handleUnsupported, isLocal]
  rfl

theorem fst_handle_of_refused (aboutJob : request.IsAboutJob) (unnamed : ¬request.NamesJob)
    (state : State) :
    (dispatcher.handle request state).1 =
      request.errorFor .clientErrorBadRequest (Fault.refused (.noJob request.header)).message := by
  obtain ⟨kind, code⟩ := isSupported_of_isAboutJob aboutJob
  have addressee : (Operation.carrying kind request).kind.addressee = .job :=
    (isAboutJob_iff code).mp aboutJob
  have invalid : (Operation.carrying kind request).validateTarget
      (Operation.carrying kind request).request = .error (.refused (.noJob request.header)) :=
    (validateTarget_of_job addressee).trans (if_neg unnamed)
  simp only [handle, OperationKind.ofCode?_eq_some_iff.mpr code, handleOperation, addressee,
    invalid]
  rfl

/-- A response bears the id of the request that it answers. -/
theorem setRequestId_response_settle (operation : Operation) (jobId : Int32) :
    (dispatcher.settle jobId operation).response.setRequestId
        operation.request.header.requestId =
      (dispatcher.settle jobId operation).response := by
  have own : (dispatcher.settle jobId operation).response.header.requestId =
      operation.request.header.requestId := by
    rw [Operation.header_response, header_settle]
  rw [← own]
  rfl

/-- Sending under another id leaves no trace once the id is set back. -/
theorem setRequestId_send (isLocal : dispatcher.target = .directory directory)
    (code : operation.request.header.code = operation.kind.code.code) (state : State) :
    (dispatcher.send operation state).1.setRequestId operation.request.header.requestId =
      (dispatcher.settle (state.lastJobId + 1) operation).response := by
  rw [fst_send_eq isLocal code, ← setRequestId_response_settle]
  rfl

theorem setRequestId_emulate
    (code : operation.request.header.code = operation.kind.code.code) (state : State) :
    (dispatcher.emulate operation state).1.setRequestId operation.request.header.requestId =
      (dispatcher.settle (state.lastJobId + 1) operation).response := by
  rw [fst_emulate code, setRequestId_response_settle]

theorem fst_handle_of_answered (isLocal : dispatcher.target = .directory directory)
    {kind : OperationKind} (code : kind.code.code = request.header.code)
    (named : request.IsAboutJob → request.NamesJob) (state : State) :
    (dispatcher.handle request state).1 =
      (dispatcher.settle (state.lastJobId + 1) (.carrying kind request)).response := by
  have ownCode : (Operation.carrying kind request).request.header.code =
      (Operation.carrying kind request).kind.code.code := code.symm
  have sent := setRequestId_send isLocal ownCode state
  have target : (Operation.carrying kind request).kind.addressee = kind.addressee := rfl
  simp only [handle, OperationKind.ofCode?_eq_some_iff.mpr code, handleOperation, target]
  cases addressee : kind.addressee with
  | nothing => exact setRequestId_emulate ownCode state
  | printer => exact sent
  | job =>
      have valid : (Operation.carrying kind request).validateTarget
          (Operation.carrying kind request).request = .ok () :=
        (validateTarget_of_job addressee).trans
          (if_pos (named ((isAboutJob_iff code).mpr addressee)))
      simp only [valid]
      exact sent

theorem fst_handle_eq (isLocal : dispatcher.target = .directory directory) (request : Message)
    {state other : State} (unseen : request.AsksForJob → state.lastJobId = other.lastJobId) :
    (dispatcher.handle request state).1 = (dispatcher.handle request other).1 := by
  by_cases supported : request.IsSupported
  · by_cases named : request.IsAboutJob → request.NamesJob
    · obtain ⟨kind, code⟩ := supported
      rw [fst_handle_of_answered isLocal code named, fst_handle_of_answered isLocal code named]
      cases makes : kind.makesJob with
      | true => rw [unseen ((asksForJob_iff code).mpr makes)]
      | false =>
          have makesNone : (Operation.carrying kind request).kind.makesJob = false := makes
          rw [settle_of_not_makesJob makesNone]
    · obtain ⟨aboutJob, unnamed⟩ := Classical.not_imp.mp named
      rw [fst_handle_of_refused aboutJob unnamed, fst_handle_of_refused aboutJob unnamed]
  · obtain ⟨explanation, refused⟩ := fst_handle_of_unsupported isLocal supported
    rw [refused, refused]

/-- What reports success is the response to an operation. -/
theorem exists_kind_of_isSuccess (isLocal : dispatcher.target = .directory directory)
    {state : State} (success : (dispatcher.handle request state).1.header.status.isSuccess) :
    ∃ kind : OperationKind, kind.code.code = request.header.code ∧
      (dispatcher.handle request state).1 =
        (dispatcher.settle (state.lastJobId + 1) (.carrying kind request)).response := by
  by_cases supported : request.IsSupported
  · by_cases named : request.IsAboutJob → request.NamesJob
    · obtain ⟨kind, code⟩ := supported
      exact ⟨kind, code, fst_handle_of_answered isLocal code named state⟩
    · obtain ⟨aboutJob, unnamed⟩ := Classical.not_imp.mp named
      rw [fst_handle_of_refused aboutJob unnamed] at success
      exact absurd success (not_isSuccess_errorFor rfl request _)
  · obtain ⟨explanation, refused⟩ := fst_handle_of_unsupported isLocal supported
    rw [refused] at success
    exact absurd success (not_isSuccess_errorFor rfl request _)

theorem makesJob_iff_startsJob (isLocal : dispatcher.target = .directory directory)
    (request : Message) (state : State) :
    MakesJob (request, (dispatcher.handle request state).1) ↔ request.StartsJob := by
  rw [MakesJob, Message.StartsJob]
  apply and_congr_right
  intro asks
  by_cases named : request.IsAboutJob → request.NamesJob
  · obtain ⟨kind, code⟩ := isSupported_of_asksForJob asks
    have successful : (dispatcher.handle request state).1.header.status = .successfulOk := by
      rw [fst_handle_of_answered isLocal code named, Header.status, Operation.header_response,
        Status.ofCode_code]
    simpa [successful, Status.isSuccess, Status.code] using named
  · have refused : ¬(dispatcher.handle request state).1.header.status.isSuccess := by
      obtain ⟨aboutJob, unnamed⟩ := Classical.not_imp.mp named
      rw [fst_handle_of_refused aboutJob unnamed]
      exact not_isSuccess_errorFor rfl request _
    simp only [named, iff_false]
    exact refused

theorem lastJobId_handle (isLocal : dispatcher.target = .directory directory) (request : Message)
    (state : State) :
    (dispatcher.handle request state).2.lastJobId =
      if request.StartsJob then state.lastJobId + 1 else state.lastJobId := by
  have given := givesNumber_handle isLocal request state
  unfold GivesNumber at given
  split
  · next starts =>
      rw [if_pos ((makesJob_iff_startsJob isLocal request state).mpr starts)] at given
      exact given.1
  · next startsNone =>
      rw [if_neg fun makes => startsNone ((makesJob_iff_startsJob isLocal request state).mp makes)]
        at given
      exact given

/-- What the requests before have left behind is their number. -/
theorem lastJobId_stateAfter_handle (isLocal : dispatcher.target = .directory directory)
    (requests : List Message) (state : State) :
    (stateAfter dispatcher.handle requests state).lastJobId =
      state.lastJobId + Int32.ofNat (requests.countP (·.StartsJob)) := by
  have each (request : Message) (state : State) :
      (dispatcher.handle request state).2.lastJobId =
        if decide request.StartsJob then state.lastJobId + 1 else state.lastJobId := by
    rw [lastJobId_handle isLocal]
    simp only [decide_eq_true_eq]
  rw [counter_stateAfter State.lastJobId (fun exchange => exchange.1.StartsJob) each]
  nth_rewrite 2 [← map_fst_transcript dispatcher.handle requests state]
  rw [List.countP_map]
  rfl

/-- An answer of a local dispatcher shows at most the number of the next job, it shows that only if
it makes a job, and it is the same in whatever order the requests before came. -/
theorem handle_shows_job_number (isLocal : dispatcher.target = .directory directory)
    (request : Message) :
    (∀ state other : State, state.lastJobId = other.lastJobId →
      (dispatcher.handle request state).1 = (dispatcher.handle request other).1) ∧
    (¬request.AsksForJob → ∀ state other : State,
      (dispatcher.handle request state).1 = (dispatcher.handle request other).1) ∧
    ∀ (earlier reordered : List Message) (state : State), earlier.Perm reordered →
      (dispatcher.handle request (stateAfter dispatcher.handle earlier state)).1 =
        (dispatcher.handle request (stateAfter dispatcher.handle reordered state)).1 := by
  refine ⟨?sameNumber, ?noJob, ?reordered⟩
  case sameNumber =>
    intro state other same
    exact fst_handle_eq isLocal request fun _ => same
  case noJob =>
    intro asksForNone state other
    exact fst_handle_eq isLocal request fun asks => absurd asks asksForNone
  case reordered =>
    intro earlier reordered state permuted
    apply fst_handle_eq isLocal request
    intro _
    rw [lastJobId_stateAfter_handle isLocal, lastJobId_stateAfter_handle isLocal,
      permuted.countP_eq]

/-- A state in which many requests have been counted and no job. -/
def busy : State := { nextRequestId := 1000 }

theorem handle_shows_job_number_busy :
    (unconnected.handle printing busy).1 = (unconnected.handle printing {}).1 ∧
      (unconnected.handle printing
          (stateAfter unconnected.handle [cancellation, printing] {})).1 =
        (unconnected.handle printing
          (stateAfter unconnected.handle [printing, cancellation] {})).1 ∧
      (unconnected.handle cancellation busy).1 =
        (unconnected.handle cancellation { lastJobId := 7 }).1 := by
  have isLocal : unconnected.target = .directory "/tmp/IPP" := rfl
  obtain ⟨sameNumber, _, reordered⟩ := handle_shows_job_number isLocal printing
  obtain ⟨_, noJob, _⟩ := handle_shows_job_number isLocal cancellation
  refine ⟨sameNumber busy {} rfl, ?_, ?_⟩
  · exact reordered _ _ {} (List.Perm.swap _ _ _)
  · exact noJob (by decide) _ _

end Dispatcher

end PrintProxy
