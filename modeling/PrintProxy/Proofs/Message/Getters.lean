import PrintProxy.Proofs.Attributes.Lookup
import PrintProxy.Proofs.Value.RoundTrip

/-!
# Getting what was set

The typed getters of a message depend on the first attribute of their name only.
A setter therefore changes its own getter and no other, and its own getter gives
back what was set unless an attribute of that name stands in a group ahead of the
one that was written.
-/

namespace PrintProxy

namespace Attribute

theorem value_ofValue (name : String) {value : Value} (meant : ¬value.Mistagged) :
    (ofValue name value).value = .ok value :=
  value.parse_tag_toBytes_iff.mpr meant

@[simp] theorem int_ofValue_integer (name : String) (number : Int32) :
    (ofValue name (.integer number)).int = .ok number := by
  rw [int, value_ofValue name id]

@[simp] theorem int_ofValue_enum (name : String) (number : Int32) :
    (ofValue name (.enum number)).int = .ok number := by
  rw [int, value_ofValue name id]

@[simp] theorem string_ofValue_text (name : String) (kind : TextSyntax) (content : String) :
    (ofValue name (.text kind content)).string = content :=
  Utf8.decodeRepairing_encode content

theorem uri_ofValue_uri (name content : String) :
    (ofValue name (.uri content)).uri = (Uri.parse content).mapError .invalidUri := by
  have tag : (ofValue name (.uri content)).first.tag = .uri := rfl
  rw [Attribute.uri, if_pos tag, Value.uri, string_ofValue_text]
  cases Uri.parse content <;> rfl

@[simp] theorem name_ofValue (name : String) (value : Value) : (ofValue name value).name = name :=
  rfl

@[simp] theorem name_ofValues (name : String) (values : List Value) :
    (ofValues name values).name = name := by
  cases values <;> rfl

@[simp] theorem name_ofTexts (tag : ValueTag) (name : String) (texts : List String) :
    (ofTexts tag name texts).name = name := by
  cases texts <;> rfl

end Attribute

/-- What a typed setter and a typed getter of a message are about. -/
inductive Message.Property where
  | printerUri
  | jobId
  | jobUri
  | jobState
  | jobStateReason
  | statusMessage
deriving DecidableEq, Repr

namespace Message.Property

def name : Property → String
  | printerUri => AttributeName.printerUri
  | jobId => AttributeName.jobId
  | jobUri => AttributeName.jobUri
  | jobState => AttributeName.jobState
  | jobStateReason => AttributeName.jobStateReasons
  | statusMessage => AttributeName.statusMessage

theorem name_inj {property other : Property} (same : property.name = other.name) :
    property = other := by
  revert same
  cases property <;> cases other <;> decide

/-- The delimiter of the group that receives a property. -/
def tag : Property → DelimiterTag
  | printerUri | jobId | statusMessage => .operationAttributes
  | jobUri | jobState | jobStateReason => .jobAttributes

/-- What is set. -/
def Content : Property → Type
  | printerUri | jobUri => Uri
  | jobId => Int32
  | jobState => JobState
  | jobStateReason => JobStateReason
  | statusMessage => String

/-- What is read. -/
def Answer : Property → Type
  | printerUri | jobUri => Except Fault Uri
  | jobId => Except Fault Int32
  | jobState => Except Fault JobState
  | jobStateReason => Except Fault JobStateReason
  | statusMessage => Option String

def set (message : Message) : (property : Property) → property.Content → Message
  | printerUri => message.setPrinterUri
  | jobId => message.setJobId
  | jobUri => message.setJobUri
  | jobState => message.setJobState
  | jobStateReason => message.setJobStateReason
  | statusMessage => message.setStatusMessage

def get (message : Message) : (property : Property) → property.Answer
  | printerUri => message.printerUri
  | jobId => message.jobId
  | jobUri => message.jobUri
  | jobState => message.jobState
  | jobStateReason => message.jobStateReason
  | statusMessage => message.statusMessage?

/-- The value that holds a content. -/
def value : (property : Property) → property.Content → Value
  | printerUri | jobUri => fun uri : Uri => .uri uri.render
  | jobId => Value.integer
  | jobState => fun state : JobState => .enum state.number
  | jobStateReason => fun reason : JobStateReason => .keyword reason.keyword
  | statusMessage => Value.textWithoutLanguage

/-- The answer that a content gives once it is written: itself, but a URI is read from its text. -/
def readBack : (property : Property) → property.Content → property.Answer
  | printerUri | jobUri => fun uri : Uri => (Uri.parse uri.render).mapError .invalidUri
  | jobId => Except.ok
  | jobState => Except.ok
  | jobStateReason => Except.ok
  | statusMessage => some

end Message.Property

namespace Message

variable {message other : Message} {tag : DelimiterTag} {name : String} {attr : Attribute}

theorem getAttribute_eq_ok_iff :
    message.getAttribute name = .ok attr ↔ message.attribute? name = some attr := by
  unfold getAttribute
  split <;> simp_all

/-- What a typed getter makes of the attribute of its name. -/
theorem getAttribute_bind {α : Type} (found : message.attribute? name = some attr)
    (read : Attribute → Except Fault α) : message.getAttribute name >>= read = read attr := by
  rw [getAttribute_eq_ok_iff.mpr found]
  rfl

theorem attribute?_add_of_ne (otherName : attr.name ≠ name) (message : Message)
    (tag : DelimiterTag) : (message.add tag attr).attribute? name = message.attribute? name :=
  Attributes.get?_add_of_ne otherName

/-- Nothing ahead of the group that is to receive an attribute of a name has that name. -/
def LeavesRoom (message : Message) (tag : DelimiterTag) (name : String) : Prop :=
  ∀ group ∈ message.attributes.ahead tag, group.get? name = none

/-- A group ahead of the one that is to receive an attribute of a name has that name already. -/
def StatesAhead (message : Message) (tag : DelimiterTag) (name : String) : Prop :=
  ∃ group ∈ message.attributes.ahead tag, ∃ attr ∈ group.attributes, attr.name = name

instance (message : Message) (tag : DelimiterTag) (name : String) :
    Decidable (message.StatesAhead tag name) :=
  inferInstanceAs (Decidable (∃ group ∈ _, ∃ attr ∈ _, _))

theorem not_statesAhead_iff : ¬message.StatesAhead tag name ↔ message.LeavesRoom tag name :=
  Attributes.not_namesAhead_iff

theorem leavesRoom_iff :
    message.LeavesRoom tag name ↔
      (message.attributes.ahead tag).findSome? (·.get? name) = none :=
  List.findSome?_eq_none_iff.symm

theorem leavesRoom_add_of_ne (otherName : attr.name ≠ name) (other : DelimiterTag) :
    (message.add other attr).LeavesRoom tag name ↔ message.LeavesRoom tag name := by
  rw [leavesRoom_iff, leavesRoom_iff, add, Attributes.findSome?_ahead_add_of_ne otherName]

theorem statesAhead_setJobAttribute_iff (attr : Attribute) :
    (message.setJobAttribute attr).StatesAhead .jobAttributes name ↔
      message.StatesAhead .jobAttributes name := by
  simp only [StatesAhead, setJobAttribute, add, Attributes.ahead_add_self]

theorem LeavesRoom.setJobAttribute (room : message.LeavesRoom .jobAttributes name)
    (attr : Attribute) : (message.setJobAttribute attr).LeavesRoom .jobAttributes name := by
  intro group isAhead
  apply room group
  simpa [Message.setJobAttribute, add] using isAhead

/-- What is stated ahead already stays what is found. -/
theorem attribute?_add_of_statesAhead (attr : Attribute)
    (stated : message.StatesAhead tag attr.name) :
    (message.add tag attr).attribute? attr.name = message.attribute? attr.name :=
  Attributes.get?_add_of_namesAhead stated

theorem attribute?_add_of_leavesRoom (attr : Attribute) (room : message.LeavesRoom tag attr.name) :
    (message.add tag attr).attribute? attr.name = some attr :=
  Attributes.get?_add_of_not_namesAhead (not_statesAhead_iff.mpr room)

theorem jobId_of_attribute? (found : message.attribute? AttributeName.jobId = some attr) :
    message.jobId = attr.int :=
  getAttribute_bind found Attribute.int

theorem jobState_of_attribute? {state : JobState}
    (found : message.attribute? AttributeName.jobState =
      some (.ofValue AttributeName.jobState (.enum state.number))) :
    message.jobState = .ok state := by
  simp only [jobState, getAttribute_eq_ok_iff.mpr found]
  simp [bind, Except.bind, pure, Except.pure]

theorem jobStateReason_of_attribute? {reason : JobStateReason}
    (found : message.attribute? AttributeName.jobStateReasons =
      some (.ofValue AttributeName.jobStateReasons (.keyword reason.keyword))) :
    message.jobStateReason = .ok reason := by
  simp only [jobStateReason, getAttribute_eq_ok_iff.mpr found, Value.keyword]
  simp [bind, Except.bind, pure, Except.pure]

namespace Property

variable {property : Property} {content : property.Content}

theorem set_eq (message : Message) (property : Property) (content : property.Content) :
    property.set message content =
      message.add property.tag (.ofValue property.name (property.value content)) := by
  cases property <;> rfl

/-- A getter depends on the attribute of its name only. -/
theorem get_eq_of_attribute?
    (same : message.attribute? property.name = other.attribute? property.name) :
    property.get message = property.get other := by
  have got : message.getAttribute property.name = other.getAttribute property.name := by
    simp only [getAttribute, same]
  cases property with
  | printerUri | jobUri => exact congrArg (· >>= Attribute.uri) got
  | jobId => exact congrArg (· >>= Attribute.int) got
  | jobState =>
      change message.jobState = other.jobState
      exact congrArg (· >>= _) got
  | jobStateReason =>
      change message.jobStateReason = other.jobStateReason
      exact congrArg (· >>= _) got
  | statusMessage => exact congrArg (Option.map Attribute.string) same

theorem get_of_attribute? (found : message.attribute? property.name =
      some (.ofValue property.name (property.value content))) :
    property.get message = property.readBack content := by
  cases property with
  | printerUri | jobUri =>
      exact (getAttribute_bind found Attribute.uri).trans (Attribute.uri_ofValue_uri _ _)
  | jobId => exact (jobId_of_attribute? found).trans (Attribute.int_ofValue_integer _ _)
  | jobState => exact jobState_of_attribute? found
  | jobStateReason => exact jobStateReason_of_attribute? found
  | statusMessage =>
      exact (congrArg (Option.map Attribute.string) found).trans
        (congrArg some (Attribute.string_ofValue_text _ .textWithoutLanguage content))

theorem attribute?_set_of_leavesRoom (room : message.LeavesRoom property.tag property.name)
    (content : property.Content) :
    (property.set message content).attribute? property.name =
      some (.ofValue property.name (property.value content)) := by
  rw [set_eq]
  exact attribute?_add_of_leavesRoom (.ofValue property.name (property.value content)) room

/-- What is set is read back, unless a group ahead states the property already. -/
theorem get_set_of_leavesRoom (room : message.LeavesRoom property.tag property.name)
    (content : property.Content) :
    property.get (property.set message content) = property.readBack content :=
  get_of_attribute? (attribute?_set_of_leavesRoom room content)

theorem get_set_of_statesAhead (stated : message.StatesAhead property.tag property.name)
    (content : property.Content) :
    property.get (property.set message content) = property.get message := by
  rw [set_eq]
  apply get_eq_of_attribute?
  exact attribute?_add_of_statesAhead (.ofValue property.name (property.value content)) stated

/-- What is set is read back exactly if no group ahead states the property already, or if it is read
before it is set. -/
theorem get_set_eq_readBack_iff (message : Message) (property : Property)
    (content : property.Content) :
    property.get (property.set message content) = property.readBack content ↔
      ¬message.StatesAhead property.tag property.name ∨
        property.get message = property.readBack content := by
  by_cases stated : message.StatesAhead property.tag property.name
  · rw [get_set_of_statesAhead stated]
    simp only [stated, not_true, false_or]
  · simp only [get_set_of_leavesRoom (not_statesAhead_iff.mp stated), stated, not_false_eq_true,
      true_or]

theorem get_set_of_ne {other : Property} (differs : other ≠ property) (message : Message)
    (content : property.Content) :
    other.get (property.set message content) = other.get message := by
  rw [set_eq]
  apply get_eq_of_attribute?
  apply Attributes.get?_add_of_ne
  intro sameName
  exact differs (name_inj sameName).symm

end Property

theorem jobId_eq_of_attribute?
    (same : message.attribute? AttributeName.jobId = other.attribute? AttributeName.jobId) :
    message.jobId = other.jobId :=
  Property.jobId.get_eq_of_attribute? same

/-- A group ahead of the first operation attributes numbers the job already. -/
def NumbersJobAhead (message : Message) : Prop :=
  ∃ group ∈ message.attributes.ahead .operationAttributes, ∃ attr ∈ group.attributes,
    attr.name = AttributeName.jobId

instance (message : Message) : Decidable message.NumbersJobAhead :=
  inferInstanceAs (Decidable (∃ group ∈ _, ∃ attr ∈ _, _))

theorem not_numbersJobAhead_iff :
    ¬message.NumbersJobAhead ↔ message.LeavesRoom .operationAttributes AttributeName.jobId :=
  not_statesAhead_iff

/-- The number that is set is the one that is read, unless the message numbers the job ahead of
it. -/
theorem jobId_setJobId_of_leavesRoom
    (room : message.LeavesRoom .operationAttributes AttributeName.jobId) (jobId : Int32) :
    (message.setJobId jobId).jobId = .ok jobId :=
  Property.jobId.get_set_of_leavesRoom room jobId

theorem jobId_setJobId_of_numbersJobAhead (numbered : message.NumbersJobAhead) (jobId : Int32) :
    (message.setJobId jobId).jobId = message.jobId :=
  Property.jobId.get_set_of_statesAhead numbered jobId

/-- Repeating the number that is read already changes nothing about what is read. -/
theorem jobId_setJobAttribute_of_same {jobId : Int32} (same : message.jobId = .ok jobId) :
    (message.setJobAttribute (.ofValue AttributeName.jobId (.integer jobId))).jobId =
      .ok jobId := by
  have found : (message.setJobAttribute
      (.ofValue AttributeName.jobId (.integer jobId))).attribute? AttributeName.jobId =
        ((message.attributes.ahead .jobAttributes).findSome? (·.get? AttributeName.jobId)).or
          (some (.ofValue AttributeName.jobId (.integer jobId))) :=
    Attributes.get?_add_self message.attributes .jobAttributes _
  cases isAhead : (message.attributes.ahead .jobAttributes).findSome?
      (·.get? AttributeName.jobId) with
  | none =>
      rw [isAhead] at found
      rw [jobId_of_attribute? found, Attribute.int_ofValue_integer]
  | some attr =>
      rw [isAhead] at found
      rw [jobId_of_attribute? found, ← same]
      exact (jobId_of_attribute? (Attributes.get?_eq_of_ahead isAhead)).symm

theorem jobUri_eq_of_attribute?
    (same : message.attribute? AttributeName.jobUri = other.attribute? AttributeName.jobUri) :
    message.jobUri = other.jobUri :=
  Property.jobUri.get_eq_of_attribute? same

/-- The URI that is set is the one that is read, unless the message states one ahead of it. -/
theorem jobUri_setJobUri_of_leavesRoom
    (room : message.LeavesRoom .jobAttributes AttributeName.jobUri) {uri : Uri}
    (readBack : Uri.parse uri.render = .ok uri) : (message.setJobUri uri).jobUri = .ok uri :=
  (Property.jobUri.get_set_of_leavesRoom room uri).trans
    (congrArg (Except.mapError Fault.invalidUri) readBack)

theorem jobUri_setJobUri_of_statesAhead
    (stated : message.StatesAhead .jobAttributes AttributeName.jobUri) (uri : Uri) :
    (message.setJobUri uri).jobUri = message.jobUri :=
  Property.jobUri.get_set_of_statesAhead stated uri

theorem attribute?_setJobState (room : message.LeavesRoom .jobAttributes AttributeName.jobState)
    (state : JobState) :
    (message.setJobState state).attribute? AttributeName.jobState =
      some (.ofValue AttributeName.jobState (.enum state.number)) :=
  Property.jobState.attribute?_set_of_leavesRoom room state

theorem attribute?_setJobStateReason
    (room : message.LeavesRoom .jobAttributes AttributeName.jobStateReasons)
    (reason : JobStateReason) :
    (message.setJobStateReason reason).attribute? AttributeName.jobStateReasons =
      some (.ofValue AttributeName.jobStateReasons (.keyword reason.keyword)) :=
  Property.jobStateReason.attribute?_set_of_leavesRoom room reason

end Message

end PrintProxy
