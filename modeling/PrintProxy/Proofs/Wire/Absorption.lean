import PrintProxy.Proofs.Wire.Exactness

/-!
# What becomes of nameless attributes

The octets of an attribute without a name are those of further values of the
attribute before it.  So a message whose groups have nameless attributes behind
others has the octets of another message, in which these values have been
absorbed by the attributes before them; and that other message is what arrives.
-/

namespace PrintProxy

/-- The attribute with the values of another one behind its own. -/
def Attribute.absorbing (attr nameless : Attribute) : Attribute :=
  { attr with more := attr.more ++ nameless.tagged }

/-- Attributes behind one that takes over the values of those without a name. -/
def Attribute.absorbAll (attr : Attribute) : List Attribute → List Attribute
  | [] => [attr]
  | next :: rest =>
      if next.name = "" then (attr.absorbing next).absorbAll rest else attr :: next.absorbAll rest

namespace AttributeGroup

/-- The group in which every attribute has taken over the values of the nameless ones behind it. -/
def absorbed (group : AttributeGroup) : AttributeGroup :=
  match group.attributes with
  | [] => group
  | first :: rest => { group with attributes := first.absorbAll rest }

@[simp] theorem tag_absorbed (group : AttributeGroup) : group.absorbed.tag = group.tag := by
  rw [absorbed]
  split <;> rfl

end AttributeGroup

def Message.absorbed (message : Message) : Message :=
  { message with attributes := ⟨message.attributes.groups.map AttributeGroup.absorbed⟩ }

/-- A group can be read back, but for attributes without a name. -/
structure AttributeGroup.Readable (group : AttributeGroup) : Prop where
  noEnd : group.tag ≠ .endOfAttributes
  canonicalTags : ∀ attr ∈ group.attributes, attr.IsCanonical

def Message.Readable (message : Message) : Prop :=
  ∀ group ∈ message.attributes.groups, group.Readable

namespace Wire

theorem spells_encodeAdditional_congr (name holder : String) {tagged : TaggedValue}
    {input rest : Bytes} :
    Spells (encodeAdditional name) tagged input rest ↔
      Spells (encodeAdditional holder) tagged input rest := by
  simp only [spells_encodeAdditional_iff, spells_encodeField_iff]

theorem spells_encodeAll_encodeAdditional_congr (name holder : String) {values : List TaggedValue}
    {input rest : Bytes} :
    Spells (encodeAll (encodeAdditional name)) values input rest ↔
      Spells (encodeAll (encodeAdditional holder)) values input rest := by
  induction values generalizing input with
  | nil => simp only [spells_encodeAll_nil_iff]
  | cons tagged values ih =>
      simp only [spells_encodeAll_cons_iff, ih, spells_encodeAdditional_congr name holder]

theorem spells_empty_name_iff {input rest : Bytes} :
    Spells (encodeField "") (Utf8.encode "") input rest ↔ input = 0 :: 0 :: rest := by
  rw [spells_encodeField_iff]
  exact and_iff_right (by decide)

/-- An attribute without a name is spelled as further values of any other one. -/
theorem spells_nameless_iff {nameless : Attribute} (noName : nameless.name = "") (holder : String)
    {input rest : Bytes} :
    Spells Attribute.encode nameless input rest ↔
      Spells (encodeAll (encodeAdditional holder)) nameless.tagged input rest := by
  rw [spells_encodeAll_encodeAdditional_congr holder "", spells_attribute_iff, noName,
    Attribute.tagged, spells_encodeAll_cons_iff]
  simp only [spells_encodeAdditional_iff, spells_empty_name_iff]
  constructor
  · rintro ⟨_, afterName, afterValue, rfl, rfl, value, more⟩
    exact ⟨afterValue, ⟨afterName, rfl, value⟩, more⟩
  · rintro ⟨afterValue, ⟨afterName, rfl, value⟩, more⟩
    exact ⟨_, afterName, afterValue, rfl, rfl, value, more⟩

theorem spells_absorbing_iff {attr nameless : Attribute} (noName : nameless.name = "")
    {input rest : Bytes} :
    Spells Attribute.encode (attr.absorbing nameless) input rest ↔
      ∃ middle, Spells Attribute.encode attr input middle ∧
        Spells Attribute.encode nameless middle rest := by
  simp only [spells_nameless_iff noName attr.name]
  simp only [spells_attribute_iff, Attribute.absorbing, spells_encodeAll_append_iff]
  constructor
  · rintro ⟨afterTag, afterName, afterValue, tag, name, value, middle, more, others⟩
    exact ⟨middle, ⟨afterTag, afterName, afterValue, tag, name, value, more⟩, others⟩
  · rintro ⟨middle, ⟨afterTag, afterName, afterValue, tag, name, value, more⟩, others⟩
    exact ⟨afterTag, afterName, afterValue, tag, name, value, middle, more, others⟩

/-- Absorbing does not show in the octets. -/
theorem spells_absorbAll_iff {attr : Attribute} {rest : List Attribute} {input behind : Bytes} :
    Spells (encodeAll Attribute.encode) (attr.absorbAll rest) input behind ↔
      Spells (encodeAll Attribute.encode) (attr :: rest) input behind := by
  induction rest generalizing attr input with
  | nil => rfl
  | cons next rest ih =>
      rw [Attribute.absorbAll]
      split
      · next noName =>
          simp only [ih, spells_encodeAll_cons_iff, spells_absorbing_iff noName]
          constructor
          · rintro ⟨afterNext, ⟨afterAttr, front, nameless⟩, back⟩
            exact ⟨afterAttr, front, afterNext, nameless, back⟩
          · rintro ⟨afterAttr, front, afterNext, nameless, back⟩
            exact ⟨afterNext, ⟨afterAttr, front, nameless⟩, back⟩
      · rw [spells_encodeAll_cons_iff, spells_encodeAll_cons_iff]
        simp only [ih]

theorem spells_absorbed_iff {group : AttributeGroup} {input rest : Bytes} :
    Spells AttributeGroup.encode group.absorbed input rest ↔
      Spells AttributeGroup.encode group input rest := by
  rw [spells_group_iff, spells_group_iff, AttributeGroup.tag_absorbed, AttributeGroup.absorbed]
  split
  · rfl
  · next first others has => simp only [has, spells_absorbAll_iff]

theorem spells_map_absorbed_iff {groups : List AttributeGroup} {input rest : Bytes} :
    Spells (encodeAll AttributeGroup.encode) (groups.map AttributeGroup.absorbed) input rest ↔
      Spells (encodeAll AttributeGroup.encode) groups input rest := by
  induction groups generalizing input with
  | nil => rfl
  | cons group groups ih =>
      simp only [List.map_cons, spells_encodeAll_cons_iff, spells_absorbed_iff, ih]

end Wire

namespace Attribute

variable {attr : Attribute} {rest : List Attribute}

/-- Only the attribute in front can be nameless in the end, and it keeps its name. -/
theorem exists_absorbAll_eq (attr : Attribute) (rest : List Attribute) :
    ∃ first others, attr.absorbAll rest = first :: others ∧ first.name = attr.name ∧
      ∀ other ∈ others, other.name ≠ "" := by
  induction rest generalizing attr with
  | nil => exact ⟨attr, [], rfl, rfl, by simp⟩
  | cons next rest ih =>
      rw [absorbAll]
      split
      · exact ih (attr.absorbing next)
      · next named =>
          obtain ⟨first, others, same, sameName, othersNamed⟩ := ih next
          rw [same]
          refine ⟨attr, _, rfl, rfl, List.forall_mem_cons.mpr ⟨?_, othersNamed⟩⟩
          rw [sameName]
          exact named

theorem absorbAll_of_named (named : ∀ other ∈ rest, other.name ≠ "") :
    attr.absorbAll rest = attr :: rest := by
  induction rest generalizing attr with
  | nil => rfl
  | cons next rest ih =>
      obtain ⟨nextNamed, restNamed⟩ := List.forall_mem_cons.mp named
      rw [absorbAll, if_neg nextNamed, ih restNamed]

theorem isCanonical_of_mem_absorbAll (canonical : ∀ own ∈ attr :: rest, own.IsCanonical) :
    ∀ own ∈ attr.absorbAll rest, own.IsCanonical := by
  induction rest generalizing attr with
  | nil => exact canonical
  | cons next rest ih =>
      obtain ⟨first, others⟩ := List.forall_mem_cons.mp canonical
      rw [absorbAll]
      split
      · obtain ⟨nameless, behind⟩ := List.forall_mem_cons.mp others
        refine ih (List.forall_mem_cons.mpr ⟨?_, behind⟩)
        exact List.forall_mem_append.mpr ⟨first, nameless⟩
      · exact List.forall_mem_cons.mpr ⟨first, ih others⟩

end Attribute

namespace AttributeGroup

variable {group : AttributeGroup}

theorem onlyFirstNameless_absorbed (group : AttributeGroup) :
    ∀ attr ∈ group.absorbed.attributes.tail, attr.name ≠ "" := by
  rw [absorbed]
  split
  · next isEmpty => simp [isEmpty]
  · next first rest _ =>
      obtain ⟨_, others, same, _, named⟩ := first.exists_absorbAll_eq rest
      simpa [same] using named

/-- A group absorbs nothing exactly if only its first attribute may be nameless. -/
theorem absorbed_eq_self_iff :
    group.absorbed = group ↔ ∀ attr ∈ group.attributes.tail, attr.name ≠ "" := by
  constructor
  · intro same
    rw [← same]
    exact group.onlyFirstNameless_absorbed
  · intro named
    rw [absorbed]
    split
    · rfl
    · next has =>
        rw [has, List.tail_cons] at named
        rw [Attribute.absorbAll_of_named named, ← has]

theorem Readable.wellFormed_absorbed (readable : group.Readable) : group.absorbed.WellFormed := by
  refine ⟨group.onlyFirstNameless_absorbed, ?_⟩
  have canonical := readable.canonicalTags
  rw [absorbed]
  split
  · exact canonical
  · next has =>
      rw [has] at canonical
      exact Attribute.isCanonical_of_mem_absorbAll canonical

end AttributeGroup

namespace Message

variable {message : Message} {octets : Bytes}

theorem encode_absorbed_iff :
    message.absorbed.encode = .ok octets ↔ message.encode = .ok octets := by
  simp only [Wire.encode_message_eq_ok_iff, Wire.spells_attributes_iff, absorbed,
    Wire.spells_map_absorbed_iff]

/-- What arrives of a message that can be read back is the message in which the values of nameless
attributes have been absorbed. -/
theorem decode_encode_absorbed (readable : message.Readable)
    (encoded : message.encode = .ok octets) : decode octets = .ok message.absorbed := by
  apply Wire.decode_eq_ok_iff.mpr
  refine ⟨Attributes.wellFormed_iff.mpr ?_, encode_absorbed_iff.mpr encoded⟩
  intro group member
  obtain ⟨before, isBefore, rfl⟩ := List.mem_map.mp member
  have sound := readable before isBefore
  rw [AttributeGroup.tag_absorbed]
  exact ⟨sound.noEnd, sound.wellFormed_absorbed⟩

/-- A message arrives as it is exactly if only the first attribute of a group may be nameless. -/
theorem absorbed_eq_self_iff :
    message.absorbed = message ↔
      ∀ group ∈ message.attributes.groups, ∀ attr ∈ group.attributes.tail, attr.name ≠ "" := by
  have eachGroup := List.map_inj_left (l := message.attributes.groups)
    (f := AttributeGroup.absorbed) (g := id)
  simp only [List.map_id, id, AttributeGroup.absorbed_eq_self_iff] at eachGroup
  rw [← eachGroup]
  constructor
  · intro same
    exact congrArg (·.attributes.groups) same
  · intro same
    rw [absorbed, same]

end Message

end PrintProxy
