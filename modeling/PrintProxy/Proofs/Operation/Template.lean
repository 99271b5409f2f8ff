import PrintProxy.Proofs.Operation.Arrival
import PrintProxy.Proofs.Operation.Ticket

/-!
# What changes leave of a template

The request of a new operation keeps its form under every sequence of changes:
operation attributes in front that begin with the charset and the language of its
texts, at most one group of job attributes behind them, no name twice in a group,
and the code of its kind.  An operation attribute that was stated is found as it
was stated last, because the first group hides the job attributes behind it.
-/

namespace PrintProxy

open Operation (Change)

namespace AttributeGroup

variable {group : AttributeGroup} {front attrs : List Attribute} {attr : Attribute}

/-- What is added under another name leaves the front of a group alone. -/
theorem isPrefix_add (begins : front <+: group.attributes)
    (others : ∀ own ∈ front, own.name ≠ attr.name) : front <+: (group.add attr).attributes := by
  obtain ⟨rest, whole⟩ := begins
  have skipped : ∀ own ∈ front, (own.name == attr.name) = false := by simpa using others
  refine ⟨changeFirst (·.name == attr.name) (fun _ => attr) attr rest, ?_⟩
  rw [add, ← whole]
  clear whole others
  induction front with
  | nil => rfl
  | cons first front ih =>
      obtain ⟨firstSkipped, frontSkipped⟩ := List.forall_mem_cons.mp skipped
      simp only [List.cons_append, changeFirst, firstSkipped, ih frontSkipped]
      rfl

theorem isPrefix_addAll (begins : front <+: group.attributes)
    (others : ∀ attr ∈ attrs, ∀ own ∈ front, own.name ≠ attr.name) :
    front <+: (group.addAll attrs).attributes := by
  induction attrs generalizing group with
  | nil => exact begins
  | cons attr attrs ih =>
      obtain ⟨first, rest⟩ := List.forall_mem_cons.mp others
      exact ih (isPrefix_add begins first) rest

end AttributeGroup

theorem Operation.Change.ne_textDefaults {change : Change} {attr : Attribute}
    (stated : change.operationAttribute? = some attr) :
    ∀ own ∈ textDefaults, own.name ≠ attr.name := by
  cases change with
  | requestedAttributes names =>
      cases stated
      rw [Attribute.name_ofTexts]
      decide
  | printerUri | jobId | jobName | documentName | requestingUserName | lastDocument =>
      cases stated
      rw [Attribute.name_ofValue]
      decide
  | requestId | data | jobAttribute | jobState | jobStateReason | printer => cases stated

theorem OperationKind.ne_textDefaults (kind : OperationKind) :
    ∀ attr ∈ kind.particulars, ∀ own ∈ textDefaults, own.name ≠ attr.name := by
  cases kind <;> decide

namespace Operation

/-- The operation attributes that changes state, in their order. -/
def stated (changes : List Change) : List Attribute :=
  changes.filterMap Change.operationAttribute?

variable {operation : Operation} {changes : List Change}

theorem code_apply (operation : Operation) (change : Change) :
    (operation.apply change).request.header.code = operation.request.header.code := by
  cases change <;> rfl

theorem code_applyAll (operation : Operation) (changes : List Change) :
    (operation.applyAll changes).request.header.code = operation.request.header.code := by
  induction changes generalizing operation with
  | nil => rfl
  | cons change changes ih => exact (ih (operation.apply change)).trans (code_apply _ change)

/-- The operation attributes after changes of a new operation. -/
def operationGroup (kind : OperationKind) (user : String) (changes : List Change) :
    AttributeGroup :=
  (AttributeGroup.empty .operationAttributes).addAll (kind.operationDefaults user ++ stated changes)

theorem laidOut_applyAll_new (kind : OperationKind) (user : String) (changes : List Change) :
    ((new kind user).applyAll changes).request.LaidOut (operationGroup kind user changes)
      (kind.jobDefaults ++ changes.filterMap Change.jobAttribute?) := by
  have template : (new kind user).request.LaidOut _ _ := kind.laidOut_template user
  have same : operationGroup kind user changes =
      ((AttributeGroup.empty .operationAttributes).addAll (kind.operationDefaults user)).addAll
        (stated changes) := List.foldl_append
  rw [same]
  exact template.applyAll changes

theorem textDefaults_isPrefix_operationGroup (kind : OperationKind) (user : String)
    (changes : List Change) :
    textDefaults <+: (operationGroup kind user changes).attributes := by
  have behind : operationGroup kind user changes =
      ((AttributeGroup.empty .operationAttributes).addAll textDefaults).addAll
        (.ofValue AttributeName.requestingUserName (.nameWithoutLanguage user) ::
          kind.particulars ++ stated changes) := by
    rw [operationGroup, OperationKind.operationDefaults, List.append_assoc]
    exact List.foldl_append
  have front : ((AttributeGroup.empty .operationAttributes).addAll textDefaults).attributes =
      textDefaults := by decide
  rw [behind]
  apply AttributeGroup.isPrefix_addAll
  · exact ⟨[], by rw [front, List.append_nil]⟩
  · simp only [List.cons_append, List.forall_mem_cons, List.forall_mem_append]
    refine ⟨?_, kind.ne_textDefaults, ?_⟩
    · have isStated : (Change.requestingUserName user).operationAttribute? =
          some (.ofValue AttributeName.requestingUserName (.nameWithoutLanguage user)) := rfl
      exact Change.ne_textDefaults isStated
    · intro attr member
      obtain ⟨change, _, states⟩ := List.mem_filterMap.mp member
      exact Change.ne_textDefaults states

theorem reflects_operationGroup (kind : OperationKind) (user : String) (changes : List Change) :
    (operationGroup kind user changes).Reflects (kind.operationDefaults user ++ stated changes) :=
  AttributeGroup.reflects_addAll _ _

/-- The name was stated by the template, whatever has been stated since. -/
theorem isSome_requestingUserName (kind : OperationKind) (user : String) (changes : List Change) :
    ((operationGroup kind user changes).get? AttributeName.requestingUserName).isSome := by
  rw [Option.isSome_iff_ne_none, ne_eq, AttributeGroup.get?_eq_none_iff_not_mem, not_not,
    (reflects_operationGroup kind user changes).names, List.mem_eraseDups]
  simp [OperationKind.operationDefaults]

/-- What was stated last under a name is what the group has. -/
theorem get?_operationGroup {earlier later : List Change} {last : Change} {attr : Attribute}
    (kind : OperationKind) (user : String) (states : last.operationAttribute? = some attr)
    (isLast : attr.name ∉ (stated later).map (·.name)) :
    (operationGroup kind user (earlier ++ last :: later)).get? attr.name = some attr := by
  have parts : stated (earlier ++ last :: later) = stated earlier ++ attr :: stated later := by
    rw [stated, List.filterMap_append, List.filterMap_cons_some states]
    rfl
  have noneLater : (stated later).filter (·.name == attr.name) = [] := by
    apply List.filter_eq_nil_iff.mpr
    intro other member
    rw [beq_iff_eq]
    exact fun same => isLast (List.mem_map.mpr ⟨other, member, same⟩)
  rw [(reflects_operationGroup kind user _).get?, parts, ← List.append_assoc, List.filter_append,
    List.filter_cons_of_pos (by simp), noneLater, List.getLast?_concat]

end Operation

namespace Message.LaidOut

variable {request : Message} {own : AttributeGroup} {jobs : List Attribute}

theorem groups_cases (laidOut : request.LaidOut own jobs) :
    request.attributes.groups = [own] ∨
      ∃ group : AttributeGroup, group.tag = .jobAttributes ∧
        request.attributes.groups = [own, group] := by
  rw [laidOut.groups]
  split
  · exact .inl rfl
  · exact .inr ⟨_, AttributeGroup.tag_addAll _ _, rfl⟩

theorem distinct (laidOut : request.LaidOut own jobs) {adds : List Attribute}
    (reflects : own.Reflects adds) :
    ∀ group ∈ request.attributes.groups, (group.attributes.map (·.name)).Nodup := by
  rw [laidOut.groups, List.forall_mem_cons]
  refine ⟨reflects.distinct, ?_⟩
  split
  · exact List.forall_mem_nil _
  · exact List.forall_mem_singleton.mpr (AttributeGroup.reflects_addAll _ jobs).distinct

/-- The operation attributes hide the job attributes behind them. -/
theorem attribute?_of_get? (laidOut : request.LaidOut own jobs) {name : String} {attr : Attribute}
    (found : own.get? name = some attr) : request.attribute? name = some attr := by
  rw [attribute?, Attributes.get?_eq, laidOut.groups, List.findSome?_cons, found]

end Message.LaidOut

theorem OperationKind.code_inj {kind other : OperationKind} :
    kind.code.code = other.code.code ↔ kind = other := by
  rw [← ofCode?_eq_some_iff, ofCode?_code, Option.some.injEq, eq_comm]

namespace Operation

theorem validateRequest_applyAll_new (kind : OperationKind) (user : String) (changes : List Change)
    (validator : Operation) :
    let request := ((new kind user).applyAll changes).request
    validator.validateRequest request =
      if validator.kind = kind then .ok ()
      else .error (.refused (.otherOperation validator.kind.code request.header)) := by
  intro request
  have code : request.header.code = kind.code.code :=
    (code_applyAll _ changes).trans (handedIn_new kind user).code
  rw [validateRequest, code]
  exact if_congr (eq_comm.trans OperationKind.code_inj) rfl rfl

/-- However a new operation is changed, its request has its operation attributes in front, begun by
what every request states about its texts, with the requesting user among them, and at most a group
of job attributes behind; no name stands twice in a group.  Exactly the operations of its kind accept
the request.  An operation attribute that was stated is found as it was stated last, whatever job
attributes were added. -/
theorem applyAll_new_keeps_template (kind : OperationKind) (user : String)
    (changes : List Change) :
    let operation := (new kind user).applyAll changes
    let request := operation.request
    ofCode kind.code user = .ok (new kind user) ∧
    (∃ own : AttributeGroup, own.tag = .operationAttributes ∧
      (request.attributes.groups = [own] ∨
        ∃ jobs : AttributeGroup, jobs.tag = .jobAttributes ∧
          request.attributes.groups = [own, jobs]) ∧
      textDefaults <+: own.attributes ∧
      (own.get? AttributeName.requestingUserName).isSome) ∧
    (∀ group ∈ request.attributes.groups, (group.attributes.map (·.name)).Nodup) ∧
    operation.validateRequest request = .ok () ∧
    (∀ other : Operation, other.kind ≠ kind →
      other.validateRequest request =
        .error (.refused (.otherOperation other.kind.code request.header))) ∧
    ∀ (earlier later : List Change) (last : Change) (attr : Attribute),
      changes = earlier ++ last :: later → last.operationAttribute? = some attr →
      attr.name ∉ (stated later).map (·.name) → request.attribute? attr.name = some attr := by
  intro operation request
  have laidOut := laidOut_applyAll_new kind user changes
  have reflects := reflects_operationGroup kind user changes
  have validates := validateRequest_applyAll_new kind user changes
  refine ⟨?byCode, ⟨_, laidOut.tag, laidOut.groups_cases, ?begins, ?names⟩,
    laidOut.distinct reflects, ?own, ?others, ?lastStated⟩
  case byCode => rw [ofCode, OperationKind.ofCode?_code]
  case begins => exact textDefaults_isPrefix_operationGroup kind user changes
  case names => exact isSome_requestingUserName kind user changes
  case own => exact (validates operation).trans (if_pos (kind_applyAll _ changes))
  case others =>
    intro other differs
    exact (validates other).trans (if_neg differs)
  case lastStated =>
    intro earlier later last attr parts states isLast
    apply laidOut.attribute?_of_get?
    rw [parts]
    exact get?_operationGroup kind user states isLast

/-- A job attribute of the same name does not hide that more documents follow. -/
theorem applyAll_new_keeps_template_overlaid :
    let more : Attribute := .ofValue AttributeName.lastDocument (.boolean false)
    let changes : List Change :=
      [.lastDocument true, .jobAttribute (.ofValue AttributeName.lastDocument (.keyword "yes")),
        .lastDocument false, .jobId 7,
        .jobAttribute (.ofValue AttributeName.attributesCharset (.keyword "latin"))]
    let request := ((new .sendDocument "anna").applyAll changes).request
    more.name ∉ (stated (changes.drop 3)).map (·.name) ∧
      request.attribute? AttributeName.lastDocument = some more ∧
      (carrying .printJob request).validateRequest request =
        .error (.refused (.otherOperation .printJob request.header)) := by
  intro more changes request
  obtain ⟨_, _, _, _, others, lastStated⟩ :=
    applyAll_new_keeps_template .sendDocument "anna" changes
  have isLast : more.name ∉ (stated (changes.drop 3)).map (·.name) := by decide
  exact ⟨isLast, lastStated (changes.take 2) (changes.drop 3) (.lastDocument false) more rfl rfl
    isLast, others (carrying .printJob request) (by decide)⟩

end Operation

end PrintProxy
