import PrintProxy.Proofs.Message.Getters
import PrintProxy.Proofs.Operation.Composition
import PrintProxy.Proofs.Outcome

/-!
# What an answer reports about the job

An answer numbers the job as the request does, whatever groups the request has,
and reports the state and the reason that have been decided, as long as the
request says nothing about them ahead of its job attributes.
-/

namespace PrintProxy

/-- What an answer says about which job it is about. -/
def jobAddressNames : List String := [AttributeName.jobId, AttributeName.jobUri]

theorem ne_of_mem_jobAddressNames {name : String} (member : name ∈ jobAddressNames) :
    AttributeName.jobState ≠ name ∧ AttributeName.jobStateReasons ≠ name := by
  revert name
  decide

theorem get?_printerGroup_of_mem {name : String} (member : name ∈ jobAddressNames)
    (printer : Uri) : (printerGroup printer).get? name = none := by
  rw [printerGroup, AttributeGroup.get?_addAll_of_ne]
  · rfl
  · simp only [List.forall_mem_cons, Attribute.name_ofValue, List.not_mem_nil, false_implies,
      implies_true, and_true]
    revert name
    decide

theorem get?_printerDescription_of_mem {name : String} (member : name ∈ jobAddressNames)
    (printer : Uri) : (printerDescription printer).get? name = none := by
  rw [printerDescription, AttributeGroup.get?_addAll_of_ne]
  · rfl
  · simp only [List.forall_mem_cons, Attribute.name_ofValue, Attribute.name_ofValues,
      Attribute.name_ofTexts, List.not_mem_nil, false_implies, implies_true, and_true]
    revert name
    decide

namespace Operation

variable {operation : Operation} {response : Message} {name : String}

theorem get?_eq_none_of_mem_printerGroups (member : name ∈ jobAddressNames)
    {group : AttributeGroup} (describes : group ∈ operation.printerGroups) :
    group.get? name = none := by
  rcases eq_of_mem_printerGroups describes with rfl | ⟨printer, _, rfl⟩
  · exact get?_printerDescription_of_mem member _
  · exact get?_printerGroup_of_mem member printer

theorem jobId_nameJob (same : response.jobId = operation.request.jobId) :
    (operation.nameJob response).jobId = operation.request.jobId := by
  unfold nameJob
  split
  · exact same
  · next jobId found =>
      have named : operation.request.jobId = .ok jobId := toOption_eq_some_iff.mp found
      rw [named] at same ⊢
      have numbered := Message.jobId_setJobAttribute_of_same same
      dsimp only
      split
      · rw [← numbered]
        apply Message.jobId_eq_of_attribute?
        exact Message.attribute?_add_of_ne
          (show AttributeName.jobUri ≠ AttributeName.jobId by decide) _ _
      · exact numbered

theorem attribute?_stateJob_of_ne (notState : AttributeName.jobState ≠ name)
    (notReason : AttributeName.jobStateReasons ≠ name) :
    (operation.stateJob response).attribute? name = response.attribute? name := by
  rw [stateJob_eq_addAll]
  apply Attributes.get?_addAll_of_ne
  intro attr decided
  rcases eq_of_mem_jobDecisions decided with ⟨state, rfl⟩ | ⟨reason, rfl⟩
  · exact notState
  · exact notReason

/-- Completing an answer overwrites at most a state that was not decided, and hides nothing. -/
theorem attribute?_complete (kept : operation.jobState.isSome ∨ AttributeName.jobState ≠ name) :
    (operation.complete response).attribute? name =
      (response.attribute? name).or (operation.printerGroups.findSome? (·.get? name)) := by
  have others : ∀ attr ∈ operation.jobCompletion, attr.name ≠ name := by
    intro attr completed
    obtain ⟨undecided, rfl⟩ := eq_of_mem_jobCompletion completed
    rcases kept with decided | otherName
    · rw [undecided] at decided
      cases decided
    · exact otherName
  have before := Attributes.get?_addAll_of_ne others response.attributes .jobAttributes
  rw [Attributes.get?_eq] at before
  rw [complete_eq_addAll]
  refine (Attributes.get?_eq _ name).trans ?_
  rw [List.findSome?_append, before]
  rfl

/-- Completing an answer says nothing about which job it is about. -/
theorem attribute?_complete_of_mem (member : name ∈ jobAddressNames) :
    (operation.complete response).attribute? name = response.attribute? name := by
  have silent : operation.printerGroups.findSome? (·.get? name) = none :=
    List.findSome?_eq_none_iff.mpr fun _ => get?_eq_none_of_mem_printerGroups member
  rw [attribute?_complete (.inr (ne_of_mem_jobAddressNames member).1), silent, Option.or_none]

/-- Whatever an answer says about which job it is about, it says by naming the job. -/
theorem attribute?_response_of_mem (member : name ∈ jobAddressNames) :
    operation.response.attribute? name =
      (operation.nameJob (Message.responseFor operation.request)).attribute? name := by
  obtain ⟨notState, notReason⟩ := ne_of_mem_jobAddressNames member
  rw [Operation.response, attribute?_complete_of_mem member,
    attribute?_stateJob_of_ne notState notReason]

/-- The answer repeats the number by which the request names its job. -/
theorem jobId_response (operation : Operation) :
    operation.response.jobId = operation.request.jobId := by
  rw [Message.jobId_eq_of_attribute? (attribute?_response_of_mem (by decide))]
  exact jobId_nameJob rfl

theorem leavesRoom_nameJob (room : response.LeavesRoom .jobAttributes name) :
    (operation.nameJob response).LeavesRoom .jobAttributes name := by
  rw [nameJob_eq_addAll, Message.LeavesRoom, Attributes.ahead_addAll]
  exact room

theorem leavesRoom_stateJob (room : response.LeavesRoom .jobAttributes name) :
    (operation.stateJob response).LeavesRoom .jobAttributes name := by
  rw [stateJob_eq_addAll, Message.LeavesRoom, Attributes.ahead_addAll]
  exact room

theorem attribute?_stateJob_jobState {state : JobState}
    (room : response.LeavesRoom .jobAttributes AttributeName.jobState)
    (decided : operation.jobState = some state) :
    (operation.stateJob response).attribute? AttributeName.jobState =
      some (.ofValue AttributeName.jobState (.enum state.number)) := by
  have found := Message.attribute?_setJobState room state
  unfold stateJob
  rw [decided]
  cases operation.jobStateReason with
  | none => exact found
  | some reason =>
      have otherName : AttributeName.jobStateReasons ≠ AttributeName.jobState := by decide
      exact (Message.attribute?_add_of_ne otherName _ _).trans found

theorem attribute?_stateJob_jobStateReasons {reason : JobStateReason}
    (room : response.LeavesRoom .jobAttributes AttributeName.jobStateReasons)
    (decided : operation.jobStateReason = some reason) :
    (operation.stateJob response).attribute? AttributeName.jobStateReasons =
      some (.ofValue AttributeName.jobStateReasons (.keyword reason.keyword)) := by
  unfold stateJob
  rw [decided]
  cases operation.jobState with
  | none => exact Message.attribute?_setJobStateReason room reason
  | some state => exact Message.attribute?_setJobStateReason (room.setJobAttribute _) reason

theorem attribute?_complete_of_found {attr : Attribute}
    (found : response.attribute? name = some attr)
    (kept : operation.jobState.isSome ∨ AttributeName.jobState ≠ name) :
    (operation.complete response).attribute? name = some attr := by
  rw [attribute?_complete kept, found, Option.some_or]

theorem jobState_response_of_decided {state : JobState}
    (room : operation.request.LeavesRoom .jobAttributes AttributeName.jobState)
    (decided : operation.jobState = some state) : operation.response.jobState = .ok state := by
  apply Message.jobState_of_attribute?
  apply attribute?_complete_of_found
  · exact attribute?_stateJob_jobState (leavesRoom_nameJob room) decided
  · simp [decided]

theorem jobState_response_of_prints
    (room : operation.request.LeavesRoom .jobAttributes AttributeName.jobState)
    (prints : operation.kind = .printJob ∨ operation.kind = .sendDocument)
    (undecided : operation.jobState = none) : operation.response.jobState = .ok .completed := by
  have completed (response : Message) :
      operation.complete response = response.setJobState .completed := by
    unfold complete
    rcases prints with kind | kind <;> simp [kind, undecided]
  have copied : (Message.responseFor operation.request).LeavesRoom .jobAttributes
      AttributeName.jobState := room
  apply Message.jobState_of_attribute?
  rw [Operation.response, completed]
  apply Message.attribute?_setJobState
  exact leavesRoom_stateJob (leavesRoom_nameJob copied)

theorem jobStateReason_response {reason : JobStateReason}
    (room : operation.request.LeavesRoom .jobAttributes AttributeName.jobStateReasons)
    (decided : operation.jobStateReason = some reason) :
    operation.response.jobStateReason = .ok reason := by
  apply Message.jobStateReason_of_attribute?
  apply attribute?_complete_of_found
  · exact attribute?_stateJob_jobStateReasons (leavesRoom_nameJob room) decided
  · exact .inr (by decide)

end Operation

end PrintProxy
