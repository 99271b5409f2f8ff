import PrintProxy.Operation.Response
import PrintProxy.Proofs.Attributes.Placement

/-!
# What an answer is made of

An answer is the request without its payload: the job attributes have the report
about the job added to them, and the groups of the printers stand behind all
groups of the request.
-/

namespace PrintProxy

namespace Message

theorem foldl_pushGroup_eq (message : Message) (groups : List AttributeGroup) :
    groups.foldl pushGroup message =
      { message with attributes := ⟨message.attributes.groups ++ groups⟩ } := by
  induction groups generalizing message with
  | nil => rw [List.foldl_nil, List.append_nil]
  | cons group groups ih =>
      rw [List.foldl_cons, ih]
      simp only [pushGroup, Attributes.pushGroup, List.append_assoc, List.singleton_append]

end Message

namespace Operation

/-- What names the job of the request, if it names one. -/
def jobAddress (operation : Operation) : List Attribute :=
  match operation.jobId? with
  | none => []
  | some jobId =>
      .ofValue AttributeName.jobId (.integer jobId) ::
        match operation.targetUri.jobUri jobId with
        | .ok uri => [.ofValue AttributeName.jobUri (.uri uri.render)]
        | .error _ => []

/-- What has been decided about the job. -/
def jobDecisions (operation : Operation) : List Attribute :=
  (operation.jobState.map fun state =>
      .ofValue AttributeName.jobState (.enum state.number)).toList ++
    (operation.jobStateReason.map fun reason =>
      .ofValue AttributeName.jobStateReasons (.keyword reason.keyword)).toList

/-- What is said of a printed document of which nothing has been decided. -/
def jobCompletion (operation : Operation) : List Attribute :=
  if (operation.kind = .printJob ∨ operation.kind = .sendDocument) ∧ operation.jobState = none then
    [.ofValue AttributeName.jobState (.enum JobState.completed.number)]
  else []

/-- How the job is, as far as the answer says it. -/
def jobStatus (operation : Operation) : List Attribute :=
  operation.jobDecisions ++ operation.jobCompletion

/-- What the answer says about the job. -/
def jobReport (operation : Operation) : List Attribute :=
  operation.jobAddress ++ operation.jobStatus

/-- What the answer says about printers: one group for each that the operation asks about. -/
def printerGroups (operation : Operation) : List AttributeGroup :=
  match operation.kind with
  | .getPrinterAttributes => [printerDescription operation.targetUri]
  | .getPrinters => operation.printers.map printerGroup
  | .getDefault => (operation.printers.take 1).map printerGroup
  | .printJob | .createJob | .sendDocument | .cancelJob | .getJobs => []

variable {operation : Operation} {attr : Attribute}

theorem eq_of_mem_jobAddress (addresses : attr ∈ operation.jobAddress) :
    (∃ jobId, attr = .ofValue AttributeName.jobId (.integer jobId)) ∨
      ∃ jobId uri, operation.targetUri.jobUri jobId = .ok uri ∧
        attr = .ofValue AttributeName.jobUri (.uri uri.render) := by
  unfold jobAddress at addresses
  split at addresses
  · cases addresses
  · next jobId _ =>
      rcases List.mem_cons.mp addresses with numbers | locates
      · exact .inl ⟨jobId, numbers⟩
      · split at locates
        · next uri made => exact .inr ⟨jobId, uri, made, List.mem_singleton.mp locates⟩
        · cases locates

theorem eq_of_mem_jobDecisions (decided : attr ∈ operation.jobDecisions) :
    (∃ state : JobState, attr = .ofValue AttributeName.jobState (.enum state.number)) ∨
      ∃ reason : JobStateReason,
        attr = .ofValue AttributeName.jobStateReasons (.keyword reason.keyword) := by
  rcases List.mem_append.mp decided with isState | isReason
  · obtain ⟨state, _, same⟩ := Option.map_eq_some_iff.mp (Option.mem_toList.mp isState)
    exact .inl ⟨state, same.symm⟩
  · obtain ⟨reason, _, same⟩ := Option.map_eq_some_iff.mp (Option.mem_toList.mp isReason)
    exact .inr ⟨reason, same.symm⟩

/-- A job is said to be completed only if nothing has been decided about its state. -/
theorem eq_of_mem_jobCompletion (completed : attr ∈ operation.jobCompletion) :
    operation.jobState = none ∧
      attr = .ofValue AttributeName.jobState (.enum JobState.completed.number) := by
  unfold jobCompletion at completed
  split at completed
  · next isDone => exact ⟨isDone.2, List.mem_singleton.mp completed⟩
  · cases completed

theorem eq_of_mem_jobStatus (stated : attr ∈ operation.jobStatus) :
    (∃ state : JobState, attr = .ofValue AttributeName.jobState (.enum state.number)) ∨
      ∃ reason : JobStateReason,
        attr = .ofValue AttributeName.jobStateReasons (.keyword reason.keyword) := by
  rcases List.mem_append.mp stated with decided | completed
  · exact eq_of_mem_jobDecisions decided
  · exact .inl ⟨_, (eq_of_mem_jobCompletion completed).2⟩

theorem eq_of_mem_printerGroups {group : AttributeGroup}
    (member : group ∈ operation.printerGroups) :
    group = printerDescription operation.targetUri ∨
      ∃ printer ∈ operation.printers, group = printerGroup printer := by
  unfold printerGroups at member
  split at member
  · exact .inl (List.mem_singleton.mp member)
  · obtain ⟨printer, isListed, same⟩ := List.mem_map.mp member
    exact .inr ⟨printer, isListed, same.symm⟩
  · obtain ⟨printer, isFirst, same⟩ := List.mem_map.mp member
    exact .inr ⟨printer, List.mem_of_mem_take isFirst, same.symm⟩
  all_goals cases member

theorem nameJob_eq_addAll (response : Message) :
    operation.nameJob response =
      { response with
        attributes := response.attributes.addAll .jobAttributes operation.jobAddress } := by
  unfold nameJob jobAddress
  cases operation.jobId? with
  | none => rfl
  | some jobId => cases made : operation.targetUri.jobUri jobId <;> simp only [made] <;> rfl

theorem stateJob_eq_addAll (response : Message) :
    operation.stateJob response =
      { response with
        attributes := response.attributes.addAll .jobAttributes operation.jobDecisions } := by
  unfold stateJob jobDecisions
  cases operation.jobState <;> cases operation.jobStateReason <;> rfl

theorem complete_eq_addAll (response : Message) :
    operation.complete response =
      { response with
        attributes :=
          ⟨(response.attributes.addAll .jobAttributes operation.jobCompletion).groups ++
            operation.printerGroups⟩ } := by
  have nothingBehind (message : Message) :
      message = { message with attributes := ⟨message.attributes.groups ++ []⟩ } := by
    rw [List.append_nil]
  unfold complete jobCompletion printerGroups
  cases operation.kind with
  | printJob | sendDocument =>
      cases operation.jobState with
      | none => exact nothingBehind (response.setJobState .completed)
      | some state => exact nothingBehind response
  | createJob | cancelJob | getJobs => exact nothingBehind response
  | getPrinterAttributes => rfl
  | getPrinters | getDefault => exact Message.foldl_pushGroup_eq response _

/-- The answer repeats the request, adds its report about the job to the job attributes and puts the
groups of printers behind all. -/
theorem response_eq (operation : Operation) :
    operation.response =
      { header := { operation.request.header with code := Status.successfulOk.code }
        attributes :=
          ⟨(operation.request.attributes.addAll .jobAttributes operation.jobReport).groups ++
            operation.printerGroups⟩
        payload := [] } := by
  rw [response, nameJob_eq_addAll, stateJob_eq_addAll, complete_eq_addAll, jobReport,
    jobStatus, Attributes.addAll_append, Attributes.addAll_append]
  rfl

end Operation

end PrintProxy
