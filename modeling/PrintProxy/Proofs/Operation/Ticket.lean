import PrintProxy.Operation.Ticket
import PrintProxy.Proofs.Message.Building
import PrintProxy.Proofs.Message.Getters

/-!
# Requests that tickets make

Every change of an operation keeps the operation attributes of its request in
front and puts everything about the state of a job behind them.  A template
begins like that, so the request of a ticket leaves room for the number of its
job and for the job's state, whatever attributes the ticket states.
-/

namespace PrintProxy

/-- What a request says nothing about in front, so that the answer can. -/
def jobStateNames : List String := [AttributeName.jobState, AttributeName.jobStateReasons]

namespace Message

/-- Operation attributes that say nothing about the state of a job are in front, and all groups
behind them are job attributes. -/
def Orderly (request : Message) : Prop :=
  ∃ own others, request.attributes.groups = own :: others ∧ own.tag = .operationAttributes ∧
    (∀ name ∈ jobStateNames, own.get? name = none) ∧
    ∀ group ∈ others, group.tag = .jobAttributes

variable {request : Message} {attr : Attribute} {name : String}

theorem orderly_stating (header : Header) : (stating header).Orderly :=
  ⟨_, [], rfl, rfl, by decide, by simp⟩

namespace Orderly

theorem setOperationAttribute (orderly : request.Orderly) (named : attr.name = name)
    (silent : name ∉ jobStateNames) : (request.setOperationAttribute attr).Orderly := by
  obtain ⟨own, others, groups, tag, unsaid, behind⟩ := orderly
  refine ⟨own.add attr, others, ?_, tag, ?_, behind⟩
  · simp [Message.setOperationAttribute, add, Attributes.add, groups, changeFirst, tag]
  · intro other member
    have otherName : attr.name ≠ other := by
      rintro rfl
      exact silent (named ▸ member)
    rw [AttributeGroup.get?_add_of_ne otherName]
    exact unsaid other member

theorem setJobAttribute (orderly : request.Orderly) (attr : Attribute) :
    (request.setJobAttribute attr).Orderly := by
  obtain ⟨own, others, groups, tag, unsaid, behind⟩ := orderly
  have changed : (request.setJobAttribute attr).attributes.groups =
      own :: changeFirst (·.tag == .jobAttributes) (·.add attr)
        ((AttributeGroup.empty .jobAttributes).add attr) others := by
    simp [Message.setJobAttribute, add, Attributes.add, groups, changeFirst, tag]
  refine ⟨own, _, changed, tag, unsaid, ?_⟩
  exact forall_mem_changeFirst behind rfl fun _ _ isJob => isJob

theorem setJobDefaults (orderly : request.Orderly) : request.setJobDefaults.Orderly :=
  ((orderly.setJobAttribute _).setJobAttribute _).setJobAttribute _

theorem leavesRoom_jobId (orderly : request.Orderly) :
    request.LeavesRoom .operationAttributes AttributeName.jobId := by
  obtain ⟨own, others, groups, tag, _, _⟩ := orderly
  simp [LeavesRoom, Attributes.ahead, groups, tag]

theorem leavesRoom_jobState (orderly : request.Orderly) (member : name ∈ jobStateNames) :
    request.LeavesRoom .jobAttributes name := by
  obtain ⟨own, others, groups, _, unsaid, behind⟩ := orderly
  intro group isAhead
  have notJob : group.tag ≠ .jobAttributes := by
    simpa using List.all_eq_true.mp List.all_takeWhile group isAhead
  have isGroup := (List.takeWhile_sublist _).subset isAhead
  rw [groups] at isGroup
  rcases List.mem_cons.mp isGroup with rfl | isOther
  · exact unsaid name member
  · exact absurd (behind group isOther) notJob

end Orderly

end Message

theorem OperationKind.orderly_template (kind : OperationKind) (user : String) :
    (kind.template user).Orderly := by
  have base : ((Message.request .current kind.code none).setRequestingUserName user).Orderly :=
    (Message.orderly_stating _).setOperationAttribute (Attribute.name_ofValue _ _) (by decide)
  cases kind with
  | printJob => exact base.setJobDefaults
  | sendDocument =>
      exact base.setJobDefaults.setOperationAttribute (Attribute.name_ofValue _ _) (by decide)
  | getJobs | getPrinterAttributes =>
      exact base.setOperationAttribute (Attribute.name_ofTexts _ _ _) (by decide)
  | getDefault =>
      exact (base.setOperationAttribute (Attribute.name_ofTexts _ _ _) (by decide))
        |>.setOperationAttribute (Attribute.name_ofValue _ _) (by decide)
  | createJob | cancelJob | getPrinters => exact base

namespace Operation

variable {operation : Operation}

theorem orderly_apply (orderly : operation.request.Orderly) (change : Change) :
    (operation.apply change).request.Orderly := by
  cases change with
  | requestId | data | jobState | jobStateReason | printer => exact orderly
  | jobAttribute attr => exact orderly.setJobAttribute attr
  | printerUri | jobId | jobName | documentName | requestingUserName | lastDocument =>
      exact orderly.setOperationAttribute (Attribute.name_ofValue _ _) (by decide)
  | requestedAttributes names =>
      exact orderly.setOperationAttribute (Attribute.name_ofTexts _ _ names) (by decide)

/-- The change decides what is answered about the job's state. -/
def Change.DecidesState : Change → Prop
  | .jobState _ => True
  | _ => False

/-- An operation as clients hand it in. -/
structure HandedIn (operation : Operation) : Prop where
  code : operation.request.header.code = operation.kind.code.code
  orderly : operation.request.Orderly
  undecided : operation.jobState = none

theorem handedIn_new (kind : OperationKind) (user : String) : (new kind user).HandedIn := by
  refine ⟨?_, kind.orderly_template user, rfl⟩
  cases kind <;> rfl

@[simp] theorem kind_apply (operation : Operation) (change : Change) :
    (operation.apply change).kind = operation.kind := by
  cases change <;> rfl

@[simp] theorem kind_applyAll (operation : Operation) (changes : List Change) :
    (operation.applyAll changes).kind = operation.kind := by
  induction changes generalizing operation with
  | nil => rfl
  | cons change changes ih => exact (ih (operation.apply change)).trans (kind_apply _ change)

namespace HandedIn

theorem apply (handedIn : operation.HandedIn) (change : Change)
    (undecided : ¬change.DecidesState) : (operation.apply change).HandedIn := by
  refine ⟨?_, orderly_apply handedIn.orderly change, ?_⟩
  · cases change <;> exact handedIn.code
  · cases change with
    | jobState => exact absurd trivial undecided
    | _ => exact handedIn.undecided

theorem applyAll {changes : List Change} (handedIn : operation.HandedIn)
    (undecided : ∀ change ∈ changes, ¬change.DecidesState) :
    (operation.applyAll changes).HandedIn := by
  induction changes generalizing operation with
  | nil => exact handedIn
  | cons change changes ih =>
      obtain ⟨first, rest⟩ := List.forall_mem_cons.mp undecided
      exact ih (handedIn.apply change first) rest

end HandedIn

end Operation

open Operation (Change)

theorem PrintDetail.not_decidesState_change (detail : PrintDetail) :
    ¬detail.change.DecidesState := by
  cases detail <;> exact id

theorem JobDetail.not_decidesState_change (detail : JobDetail) : ¬detail.change.DecidesState := by
  cases detail <;> exact id

theorem DocumentDetail.not_decidesState_change (detail : DocumentDetail) :
    ¬detail.change.DecidesState := by
  cases detail <;> exact id

namespace Ticket

theorem not_decidesState_of_mem (ticket : Ticket) :
    ∀ change ∈ ticket.changes, ¬change.DecidesState := by
  cases ticket with
  | printJob printer data details =>
      simpa [changes, Change.DecidesState] using
        fun detail _ => PrintDetail.not_decidesState_change detail
  | createJob printer details =>
      simpa [changes, Change.DecidesState] using
        fun detail _ => JobDetail.not_decidesState_change detail
  | sendDocument printer jobId data details =>
      simpa [changes, Change.DecidesState] using
        fun detail _ => DocumentDetail.not_decidesState_change detail
  | cancelJob | getJobs => simp [changes, Change.DecidesState]
  | getPrinterAttributes printer names => cases names <;> simp [changes, Change.DecidesState]
  | getPrinters | getDefault => simp [changes]

theorem handedIn_operation (ticket : Ticket) (user : String) :
    (ticket.operation user).HandedIn :=
  (Operation.handedIn_new ticket.kind user).applyAll ticket.not_decidesState_of_mem

@[simp] theorem kind_operation (ticket : Ticket) (user : String) :
    (ticket.operation user).kind = ticket.kind :=
  Operation.kind_applyAll _ ticket.changes

theorem jobId_applyAll_userNames (operation : Operation) (userNames : List String) :
    (operation.applyAll (userNames.map .requestingUserName)).request.jobId =
      operation.request.jobId := by
  induction userNames generalizing operation with
  | nil => rfl
  | cons user userNames ih =>
      have otherName : AttributeName.requestingUserName ≠ AttributeName.jobId := by decide
      refine (ih (operation.apply (.requestingUserName user))).trans ?_
      apply Message.jobId_eq_of_attribute?
      exact Message.attribute?_add_of_ne otherName _ _

theorem jobId_operation_cancelJob (printer : Uri) (jobId : Int32) (userNames : List String)
    (user : String) :
    ((cancelJob printer jobId userNames).operation user).request.jobId = .ok jobId := by
  have addressed : ((Operation.new .cancelJob user).apply (.printerUri printer)).request.Orderly :=
    Operation.orderly_apply (OperationKind.orderly_template .cancelJob user) (.printerUri printer)
  have numbered := Message.jobId_setJobId_of_leavesRoom addressed.leavesRoom_jobId jobId
  rw [← numbered]
  exact jobId_applyAll_userNames _ userNames

end Ticket

end PrintProxy
