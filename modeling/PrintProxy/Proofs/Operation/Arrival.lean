import PrintProxy.Operation.Ticket
import PrintProxy.Proofs.Attributes.History
import PrintProxy.Proofs.Message.Building
import PrintProxy.Proofs.Message.Getters
import PrintProxy.Proofs.Wire.Absorption

/-!
# What arrives of a ticket

A ticket's request has its operation attributes in front, all of them with names.
Behind them stand the job attributes: what the template says about the job, and
what the ticket states, under every name the last of it.  A server gets the
request as it is unless a job attribute without a name is stated behind another
one; its values are then absorbed by the one before it.
-/

namespace PrintProxy

/-- The attribute is read back as one of its own, wherever it stands. -/
structure Attribute.StandsAlone (attr : Attribute) : Prop where
  named : attr.name ≠ ""
  canonical : attr.IsCanonical

instance (attr : Attribute) : Decidable attr.StandsAlone :=
  decidable_of_iff (attr.name ≠ "" ∧ attr.IsCanonical)
    ⟨fun parts => ⟨parts.1, parts.2⟩, fun alone => ⟨alone.named, alone.canonical⟩⟩

/-- Behind an attribute with a name there is one without. -/
def NamelessBehind : List Attribute → Prop
  | [] => False
  | first :: rest => first.name ≠ "" ∧ ∃ attr ∈ rest, attr.name = ""

instance : (attrs : List Attribute) → Decidable (NamelessBehind attrs)
  | [] => inferInstanceAs (Decidable False)
  | first :: rest => inferInstanceAs (Decidable (first.name ≠ "" ∧ ∃ attr ∈ rest, attr.name = ""))

/-- What every request states about its texts. -/
def textDefaults : List Attribute :=
  [.ofValue AttributeName.attributesCharset (.text .charset "utf-8"),
    .ofValue AttributeName.attributesNaturalLanguage (.text .naturalLanguage "en")]

/-- The operation attributes that only the template of a kind states. -/
def OperationKind.particulars (kind : OperationKind) : List Attribute :=
  match kind with
  | .sendDocument => [.ofValue AttributeName.lastDocument (.boolean true)]
  | .getJobs => [.ofTexts .keyword AttributeName.requestedAttributes requestedJobAttributes]
  | .getPrinterAttributes =>
      [.ofTexts .keyword AttributeName.requestedAttributes requestedPrinterAttributes]
  | .getDefault =>
      [.ofTexts .keyword AttributeName.requestedAttributes requestedDefaultAttributes,
        .ofValue AttributeName.printerUri (.uri defaultPrinters.render)]
  | .printJob | .createJob | .cancelJob | .getPrinters => []

/-- The operation attributes of the template of a kind. -/
def OperationKind.operationDefaults (kind : OperationKind) (user : String) : List Attribute :=
  textDefaults ++
    .ofValue AttributeName.requestingUserName (.nameWithoutLanguage user) :: kind.particulars

/-- How a document is printed unless a ticket says otherwise. -/
def printingDefaults : List Attribute :=
  [.ofValue AttributeName.copies (.integer 1),
    .ofValue AttributeName.orientationRequested (.enum Orientation.portrait.number),
    .ofValue AttributeName.outputMode (.keyword "monochrome")]

/-- What the template of a kind says about a job. -/
def OperationKind.jobDefaults : OperationKind → List Attribute
  | .printJob | .sendDocument => printingDefaults
  | .createJob | .cancelJob | .getJobs | .getPrinterAttributes | .getPrinters | .getDefault => []

namespace Operation.Change

/-- The operation attribute that a change states. -/
def operationAttribute? : Change → Option Attribute
  | .printerUri uri => some (.ofValue AttributeName.printerUri (.uri uri.render))
  | .jobId number => some (.ofValue AttributeName.jobId (.integer number))
  | .jobName name => some (.ofValue AttributeName.jobName (.nameWithoutLanguage name))
  | .documentName name => some (.ofValue AttributeName.documentName (.nameWithoutLanguage name))
  | .requestingUserName user =>
      some (.ofValue AttributeName.requestingUserName (.nameWithoutLanguage user))
  | .lastDocument last => some (.ofValue AttributeName.lastDocument (.boolean last))
  | .requestedAttributes names => some (.ofTexts .keyword AttributeName.requestedAttributes names)
  | .requestId _ | .data _ | .jobAttribute _ | .jobState _ | .jobStateReason _ | .printer _ => none

/-- The job attribute that a change states. -/
def jobAttribute? : Change → Option Attribute
  | .jobAttribute attr => some attr
  | _ => none

end Operation.Change

/-- The job attributes that a ticket states, in their order. -/
def Ticket.jobAttributes (ticket : Ticket) : List Attribute :=
  ticket.changes.filterMap Operation.Change.jobAttribute?

/-- The operation attributes that a ticket states, in their order. -/
def Ticket.operationAttributes (ticket : Ticket) : List Attribute :=
  ticket.changes.filterMap Operation.Change.operationAttribute?

namespace Attribute

variable {name : String}

theorem standsAlone_ofValue {value : Value} (named : name ≠ "")
    (canonical : value.tag.IsCanonical) : (ofValue name value).StandsAlone :=
  ⟨named, List.forall_mem_singleton.mpr canonical⟩

theorem standsAlone_text {content : String} {kind : TextSyntax} (named : name ≠ "") :
    (ofValue name (.text kind content)).StandsAlone :=
  standsAlone_ofValue named kind.isCanonical_tag

theorem standsAlone_ofTexts {tag : ValueTag} (named : name ≠ "") (canonical : tag.IsCanonical)
    (texts : List String) : (ofTexts tag name texts).StandsAlone := by
  refine ⟨by rwa [name_ofTexts], ?_⟩
  cases texts with
  | nil => exact List.forall_mem_singleton.mpr canonical
  | cons text texts =>
      refine List.forall_mem_cons.mpr ⟨canonical, ?_⟩
      intro tagged member
      obtain ⟨_, _, rfl⟩ := List.mem_map.mp member
      exact canonical

end Attribute

theorem Operation.Change.standsAlone {change : Change} {attr : Attribute}
    (stated : change.operationAttribute? = some attr) : attr.StandsAlone := by
  cases change with
  | printerUri | jobName | documentName | requestingUserName =>
      cases stated
      exact Attribute.standsAlone_text (by decide)
  | jobId =>
      cases stated
      exact Attribute.standsAlone_ofValue (by decide) (by decide : ValueTag.integer.IsCanonical)
  | lastDocument =>
      cases stated
      exact Attribute.standsAlone_ofValue (by decide) (by decide : ValueTag.boolean.IsCanonical)
  | requestedAttributes names =>
      cases stated
      exact Attribute.standsAlone_ofTexts (by decide) (by decide) names
  | requestId | data | jobAttribute | jobState | jobStateReason | printer => cases stated

namespace AttributeGroup

variable {group : AttributeGroup} {adds attrs : List Attribute} {holds : Attribute → Prop}

@[simp] theorem tag_empty (tag : DelimiterTag) : (empty tag).tag = tag := rfl

theorem forall_mem_add {attr : Attribute} (before : ∀ own ∈ group.attributes, holds own)
    (added : holds attr) : ∀ own ∈ (group.add attr).attributes, holds own :=
  forall_mem_changeFirst before added fun _ _ _ => added

theorem forall_mem_addAll (before : ∀ own ∈ group.attributes, holds own)
    (added : ∀ attr ∈ attrs, holds attr) : ∀ own ∈ (group.addAll attrs).attributes, holds own := by
  induction attrs generalizing group with
  | nil => exact before
  | cons attr attrs ih =>
      obtain ⟨first, others⟩ := List.forall_mem_cons.mp added
      exact ih (forall_mem_add before first) others

theorem Reflects.addAll (reflects : group.Reflects adds) (attrs : List Attribute) :
    (group.addAll attrs).Reflects (adds ++ attrs) := by
  induction attrs generalizing group adds with
  | nil => rwa [List.append_nil]
  | cons attr attrs ih =>
      rw [List.append_cons]
      exact ih (reflects.add attr)

theorem reflects_addAll (tag : DelimiterTag) (attrs : List Attribute) :
    ((empty tag).addAll attrs).Reflects attrs := by
  simpa using (reflects_empty tag).addAll attrs

/-- Only the first attribute of a group may be nameless, if and only if no nameless one was added
behind another. -/
theorem Reflects.onlyFirstNameless_iff (reflects : group.Reflects adds) :
    (∀ attr ∈ group.attributes.tail, attr.name ≠ "") ↔ ¬NamelessBehind adds := by
  have byNames : (∀ attr ∈ group.attributes.tail, attr.name ≠ "") ↔
      "" ∉ (adds.map (·.name)).eraseDups.tail := by
    rw [← reflects.names, ← List.map_tail, List.mem_map, not_exists]
    exact forall_congr' fun attr => not_and.symm
  rw [byNames]
  cases adds with
  | nil => exact iff_of_true List.not_mem_nil id
  | cons first rest =>
      have isOther : (!"" == first.name) = true ↔ first.name ≠ "" := by
        rw [Bool.not_eq_true', beq_eq_false_iff_ne, ne_comm]
      rw [List.map_cons, List.eraseDups_cons, List.tail_cons, List.mem_eraseDups, List.mem_filter,
        List.mem_map, isOther, and_comm]
      rfl

end AttributeGroup

namespace Message

/-- The request has its operation attributes in front, each of them to be read back alone, and
behind them the group of job attributes, if any were stated. -/
structure LaidOut (request : Message) (own : AttributeGroup) (jobs : List Attribute) : Prop where
  groups : request.attributes.groups =
    own :: if jobs = [] then [] else [(AttributeGroup.empty .jobAttributes).addAll jobs]
  tag : own.tag = .operationAttributes
  standAlone : ∀ attr ∈ own.attributes, attr.StandsAlone

variable {request : Message} {own : AttributeGroup} {jobs : List Attribute} {attr : Attribute}

theorem laidOut_stating (header : Header) :
    (stating header).LaidOut
      ((AttributeGroup.empty .operationAttributes).addAll textDefaults) [] :=
  ⟨rfl, rfl, by decide⟩

namespace LaidOut

theorem setOperationAttribute (laidOut : request.LaidOut own jobs) (alone : attr.StandsAlone) :
    (request.setOperationAttribute attr).LaidOut (own.add attr) jobs where
  groups := by
    simp [Message.setOperationAttribute, add, Attributes.add, laidOut.groups, changeFirst,
      laidOut.tag]
  tag := laidOut.tag
  standAlone := AttributeGroup.forall_mem_add laidOut.standAlone alone

theorem setJobAttribute (laidOut : request.LaidOut own jobs) (attr : Attribute) :
    (request.setJobAttribute attr).LaidOut own (jobs ++ [attr]) where
  groups := by
    have extended : (AttributeGroup.empty .jobAttributes).addAll (jobs ++ [attr]) =
        ((AttributeGroup.empty .jobAttributes).addAll jobs).add attr := List.foldl_append
    have someStated : jobs ++ [attr] ≠ [] := by simp
    have added : (request.setJobAttribute attr).attributes.groups =
        own :: changeFirst (·.tag == .jobAttributes) (·.add attr)
          ((AttributeGroup.empty .jobAttributes).add attr)
          (if jobs = [] then [] else [(AttributeGroup.empty .jobAttributes).addAll jobs]) := by
      simp [Message.setJobAttribute, add, Attributes.add, laidOut.groups, changeFirst, laidOut.tag]
    rw [added, if_neg someStated, extended]
    cases jobs with
    | nil => rfl
    | cons first others => simp [changeFirst]
  tag := laidOut.tag
  standAlone := laidOut.standAlone

theorem states (laidOut : request.LaidOut own jobs) (change : Operation.Change)
    (stated : change.operationAttribute? = some attr) :
    (request.setOperationAttribute attr).LaidOut (own.add attr) jobs :=
  laidOut.setOperationAttribute (Operation.Change.standsAlone stated)

theorem setJobDefaults (laidOut : request.LaidOut own []) :
    request.setJobDefaults.LaidOut own printingDefaults :=
  ((laidOut.setJobAttribute _).setJobAttribute _).setJobAttribute _

/-- Everything in the request can be read back, but for job attributes without a name. -/
theorem readable (laidOut : request.LaidOut own jobs)
    (decodable : ∀ attr ∈ jobs, attr.IsCanonical) : request.Readable := by
  have ownReadable : own.Readable := by
    refine ⟨?_, fun attr member => (laidOut.standAlone attr member).canonical⟩
    rw [laidOut.tag]
    decide
  have jobsReadable : ((AttributeGroup.empty .jobAttributes).addAll jobs).Readable := by
    refine ⟨?_, AttributeGroup.forall_mem_addAll (by simp [AttributeGroup.empty]) decodable⟩
    rw [AttributeGroup.tag_addAll]
    decide
  rw [Message.Readable, laidOut.groups]
  split <;> simp [ownReadable, jobsReadable]

theorem receiver_operationAttributes (laidOut : request.LaidOut own jobs) :
    request.attributes.receiver .operationAttributes = own := by
  simp [Attributes.receiver, laidOut.groups, laidOut.tag]

theorem receiver_jobAttributes (laidOut : request.LaidOut own jobs) :
    request.attributes.receiver .jobAttributes =
      (AttributeGroup.empty .jobAttributes).addAll jobs := by
  rw [Attributes.receiver, laidOut.groups]
  cases jobs with
  | nil => simp [laidOut.tag, AttributeGroup.addAll]
  | cons first others => simp [laidOut.tag]

/-- The request arrives as it is unless a job attribute without a name is stated behind another. -/
theorem absorbed_eq_self_iff (laidOut : request.LaidOut own jobs) :
    request.absorbed = request ↔ ¬NamelessBehind jobs := by
  have ownNamed : ∀ attr ∈ own.attributes.tail, attr.name ≠ "" := fun attr member =>
    (laidOut.standAlone attr (List.mem_of_mem_tail member)).named
  rw [Message.absorbed_eq_self_iff, laidOut.groups, List.forall_mem_cons, and_iff_right ownNamed]
  cases jobs with
  | nil => exact iff_of_true (by simp) id
  | cons first others =>
      rw [if_neg (List.cons_ne_nil _ _), List.forall_mem_singleton]
      exact (AttributeGroup.reflects_addAll _ _).onlyFirstNameless_iff

end LaidOut

end Message

theorem OperationKind.laidOut_template (kind : OperationKind) (user : String) :
    (kind.template user).LaidOut
      ((AttributeGroup.empty .operationAttributes).addAll (kind.operationDefaults user))
      kind.jobDefaults := by
  have stating := Message.laidOut_stating ⟨.current, kind.code.code, 1⟩
  have base := stating.states (.requestingUserName user) rfl
  cases kind with
  | printJob => exact base.setJobDefaults
  | sendDocument => exact base.setJobDefaults.states (.lastDocument true) rfl
  | getJobs => exact base.states (.requestedAttributes requestedJobAttributes) rfl
  | getPrinterAttributes =>
      exact base.states (.requestedAttributes requestedPrinterAttributes) rfl
  | getDefault =>
      have requested := base.states (.requestedAttributes requestedDefaultAttributes) rfl
      exact requested.states (.printerUri defaultPrinters) rfl
  | createJob | cancelJob | getPrinters => exact base

/-- A change states an operation attribute, or a job attribute, or nothing. -/
theorem Operation.apply_cases (operation : Operation) (change : Change) :
    (∃ attr, change.operationAttribute? = some attr ∧ change.jobAttribute? = none ∧
      (operation.apply change).request = operation.request.setOperationAttribute attr) ∨
    (∃ attr, change.operationAttribute? = none ∧ change.jobAttribute? = some attr ∧
      (operation.apply change).request = operation.request.setJobAttribute attr) ∨
    (change.operationAttribute? = none ∧ change.jobAttribute? = none ∧
      (operation.apply change).request.attributes = operation.request.attributes) := by
  cases change with
  | printerUri | jobId | jobName | documentName | requestingUserName | lastDocument
  | requestedAttributes => exact .inl ⟨_, rfl, rfl, rfl⟩
  | jobAttribute => exact .inr (.inl ⟨_, rfl, rfl, rfl⟩)
  | requestId | data | jobState | jobStateReason | printer => exact .inr (.inr ⟨rfl, rfl, rfl⟩)

namespace Message.LaidOut

variable {operation : Operation} {own : AttributeGroup} {jobs : List Attribute}

theorem apply (laidOut : operation.request.LaidOut own jobs) (change : Operation.Change) :
    (operation.apply change).request.LaidOut (own.addAll change.operationAttribute?.toList)
      (jobs ++ change.jobAttribute?.toList) := by
  rcases operation.apply_cases change with
    ⟨attr, stated, noJob, changed⟩ | ⟨attr, noOwn, stated, changed⟩ | ⟨noOwn, noJob, unchanged⟩
  · rw [stated, noJob, changed, Option.toList_none, List.append_nil]
    exact laidOut.states change stated
  · rw [noOwn, stated, changed]
    exact laidOut.setJobAttribute attr
  · rw [noOwn, noJob, Option.toList_none, List.append_nil]
    exact ⟨unchanged ▸ laidOut.groups, laidOut.tag, laidOut.standAlone⟩

theorem applyAll (laidOut : operation.request.LaidOut own jobs) (changes : List Operation.Change) :
    (operation.applyAll changes).request.LaidOut
      (own.addAll (changes.filterMap Operation.Change.operationAttribute?))
      (jobs ++ changes.filterMap Operation.Change.jobAttribute?) := by
  simp only [List.filterMap_eq_flatMap_toList]
  induction changes generalizing operation own jobs with
  | nil =>
      rw [List.flatMap_nil, List.flatMap_nil, List.append_nil]
      exact laidOut
  | cons change changes ih =>
      have later := ih (laidOut.apply change)
      rw [List.append_assoc] at later
      rw [List.flatMap_cons, List.flatMap_cons, AttributeGroup.addAll, List.foldl_append]
      exact later

end Message.LaidOut

namespace Ticket

theorem exists_laidOut_operation (ticket : Ticket) (user : String) :
    ∃ own, (ticket.kind.template user).LaidOut own ticket.kind.jobDefaults ∧
      (ticket.operation user).request.LaidOut (own.addAll ticket.operationAttributes)
        (ticket.kind.jobDefaults ++ ticket.jobAttributes) := by
  have template := ticket.kind.laidOut_template user
  exact ⟨_, template, Message.LaidOut.applyAll template ticket.changes⟩

/-- A server reads a ticket's request as it was built exactly if no job attribute without a name was
stated behind another one; otherwise it reads the values of such an attribute as further values of
the one before it.  The request has the operation attributes of the template and of the ticket, and
behind them the job attributes: under every name the last one that was stated, in the order in which
the names came first. -/
theorem decode_request_iff (ticket : Ticket) (user : String) {octets : Bytes}
    (decodable : ∀ attr ∈ ticket.jobAttributes, attr.IsCanonical)
    (encoded : (ticket.operation user).request.encode = .ok octets) :
    let request := (ticket.operation user).request
    let stated := ticket.kind.jobDefaults ++ ticket.jobAttributes
    (Message.decode octets = .ok request ↔ ¬NamelessBehind stated) ∧
    Message.decode octets = .ok request.absorbed ∧
    request.attributes.groups.map (·.tag) =
      (if stated = [] then [.operationAttributes] else [.operationAttributes, .jobAttributes]) ∧
    request.attributes.receiver .operationAttributes =
      ((ticket.kind.template user).attributes.receiver .operationAttributes).addAll
        ticket.operationAttributes ∧
    (request.attributes.receiver .jobAttributes).Reflects stated := by
  intro request stated
  obtain ⟨own, template, laidOut⟩ := ticket.exists_laidOut_operation user
  have canonical : ∀ attr ∈ stated, attr.IsCanonical := by
    refine List.forall_mem_append.mpr ⟨?_, decodable⟩
    cases ticket.kind <;> decide
  have arrives : Message.decode octets = .ok request.absorbed :=
    Message.decode_encode_absorbed (laidOut.readable canonical) encoded
  refine ⟨?asBuilt, arrives, ?tags, ?operationAttributes, ?jobAttributes⟩
  case asBuilt =>
    rw [arrives, Except.ok.injEq]
    exact laidOut.absorbed_eq_self_iff
  case tags =>
    rw [laidOut.groups, List.map_cons, AttributeGroup.tag_addAll, template.tag]
    split <;> simp
  case operationAttributes =>
    rw [laidOut.receiver_operationAttributes, template.receiver_operationAttributes]
  case jobAttributes =>
    rw [laidOut.receiver_jobAttributes]
    exact AttributeGroup.reflects_addAll .jobAttributes stated

/-- A page to be printed, with a job attribute. -/
def printing (attr : Attribute) : Ticket :=
  .printJob ⟨some "ipp", some ⟨"printhost"⟩, "/printers/p", none⟩ [0x25] [.jobAttribute attr]

/-- Two copies are asked for, where the template asks for one. -/
theorem decode_request_iff_twoCopies :
    let twoCopies := Attribute.ofValue AttributeName.copies (.integer 2)
    let request := ((printing twoCopies).operation "anna").request
    ∃ octets, request.encode = .ok octets ∧ Message.decode octets = .ok request ∧
      (request.attributes.receiver .jobAttributes).get? AttributeName.copies = some twoCopies := by
  intro twoCopies request
  obtain ⟨octets, encoded⟩ : ∃ octets, request.encode = .ok octets := ⟨_, rfl⟩
  obtain ⟨asBuilt, _, _, _, jobs⟩ :=
    decode_request_iff (printing twoCopies) "anna" (by decide) encoded
  exact ⟨octets, encoded, asBuilt.mpr (by decide), (jobs.get? _).trans (by decide)⟩

/-- A nameless five arrives as a second output mode. -/
theorem decode_request_altered :
    let five := Attribute.ofValue "" (.integer 5)
    let request := ((printing five).operation "anna").request
    ∃ octets arrived, request.encode = .ok octets ∧ Message.decode octets = .ok arrived ∧
      arrived ≠ request ∧
      request.attribute? AttributeName.outputMode =
        some (.ofValue AttributeName.outputMode (.keyword "monochrome")) ∧
      arrived.attribute? AttributeName.outputMode =
        some (.ofValues AttributeName.outputMode [.keyword "monochrome", .integer 5]) ∧
      request.attribute? "" = some five ∧ arrived.attribute? "" = none := by
  intro five request
  obtain ⟨octets, encoded⟩ : ∃ octets, request.encode = .ok octets := ⟨_, rfl⟩
  obtain ⟨_, _, laidOut⟩ := (printing five).exists_laidOut_operation "anna"
  have arrives := Message.decode_encode_absorbed (laidOut.readable (by decide)) encoded
  exact ⟨octets, request.absorbed, encoded, arrives, by decide, by decide, by decide, by decide,
    by decide⟩

end Ticket

end PrintProxy
