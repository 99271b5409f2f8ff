import PrintProxy.Proofs.Outcome
import PrintProxy.Wire.Encode

/-!
# Spelling

`Spells encode value input rest` says that an input begins with the octets of
a value and that `rest` is what stands behind them.  The octets of a whole are
those of its parts in order, so each encoder is described by how its relation
splits: into a tag, fields with their lengths, further values and items that
follow one another.
-/

namespace PrintProxy.Wire

variable {α : Type}

/-- The input is the octets of a value with `rest` behind them. -/
def Spells (encode : α → Except WireFault Bytes) (value : α) (input rest : Bytes) : Prop :=
  ∃ octets, encode value = .ok octets ∧ input = octets ++ rest

theorem spells_append {encode : α → Except WireFault Bytes} {value : α} {octets : Bytes}
    (encoded : encode value = .ok octets) (rest : Bytes) :
    Spells encode value (octets ++ rest) rest :=
  ⟨octets, encoded, rfl⟩

theorem spells_append_more_iff {encode : α → Except WireFault Bytes} {value : α}
    {input rest more : Bytes} :
    Spells encode value (input ++ more) (rest ++ more) ↔ Spells encode value input rest := by
  constructor
  · intro spelled
    obtain ⟨octets, encoded, same⟩ := spelled
    rw [← List.append_assoc] at same
    exact ⟨octets, encoded, List.append_cancel_right same⟩
  · intro spelled
    obtain ⟨octets, encoded, rfl⟩ := spelled
    exact ⟨octets, encoded, List.append_assoc ..⟩

theorem encodeField_eq_ok_iff {name : String} {octets field : Bytes} :
    encodeField name octets = .ok field ↔
      octets.length ≤ greatestFieldLength ∧
        field = Bytes.ofUInt16 (UInt16.ofNat octets.length) ++ octets := by
  unfold encodeField
  split
  · rename_i fits
    constructor
    · intro same
      cases same
      exact ⟨fits, rfl⟩
    · intro spelled
      exact congrArg Except.ok spelled.2.symm
  · rename_i tooLong
    constructor
    · intro same
      cases same
    · intro spelled
      exact absurd spelled.1 tooLong

theorem spells_encodeField_iff {name : String} {octets input rest : Bytes} :
    Spells (encodeField name) octets input rest ↔
      octets.length ≤ greatestFieldLength ∧
        input = Bytes.ofUInt16 (UInt16.ofNat octets.length) ++ octets ++ rest := by
  constructor
  · intro spelled
    obtain ⟨field, encoded, rfl⟩ := spelled
    obtain ⟨fits, rfl⟩ := encodeField_eq_ok_iff.mp encoded
    exact ⟨fits, rfl⟩
  · intro parts
    obtain ⟨fits, rfl⟩ := parts
    exact ⟨_, encodeField_eq_ok_iff.mpr ⟨fits, rfl⟩, rfl⟩

theorem spells_encodeAdditional_iff {name : String} {tagged : TaggedValue}
    {input rest : Bytes} :
    Spells (encodeAdditional name) tagged input rest ↔
      ∃ middle, input = tagged.tag.code :: 0 :: 0 :: middle ∧
        Spells (encodeField name) tagged.octets middle rest := by
  constructor
  · intro spelled
    obtain ⟨octets, encoded, rfl⟩ := spelled
    obtain ⟨field, fieldEncoded, same⟩ := bind_eq_ok_iff.mp encoded
    cases same
    exact ⟨field ++ rest, rfl, spells_append fieldEncoded rest⟩
  · intro parts
    obtain ⟨_, rfl, field, fieldEncoded, rfl⟩ := parts
    exact ⟨tagged.tag.code :: 0 :: 0 :: field, bind_eq_ok_iff.mpr ⟨field, fieldEncoded, rfl⟩, rfl⟩

theorem encodeAll_cons_eq_ok_iff {encode : α → Except WireFault Bytes} {item : α}
    {items : List α} {octets : Bytes} :
    encodeAll encode (item :: items) = .ok octets ↔
      ∃ front back, encode item = .ok front ∧ encodeAll encode items = .ok back ∧
        octets = front ++ back := by
  simp only [encodeAll, List.mapM_cons, bind_eq_ok_iff, pure_eq_ok_iff]
  constructor
  · intro encoded
    obtain ⟨_, ⟨front, frontEncoded, parts, partsEncoded, rfl⟩, rfl⟩ := encoded
    exact ⟨front, parts.flatten, frontEncoded, ⟨parts, partsEncoded, rfl⟩, rfl⟩
  · intro encoded
    obtain ⟨front, _, frontEncoded, ⟨parts, partsEncoded, rfl⟩, rfl⟩ := encoded
    exact ⟨front :: parts, ⟨front, frontEncoded, parts, partsEncoded, rfl⟩, rfl⟩

theorem spells_encodeAll_nil_iff {encode : α → Except WireFault Bytes}
    {input rest : Bytes} :
    Spells (encodeAll encode) [] input rest ↔ input = rest := by
  constructor
  · intro spelled
    obtain ⟨octets, encoded, rfl⟩ := spelled
    cases encoded
    rfl
  · intro same
    subst same
    exact ⟨[], rfl, rfl⟩

theorem spells_encodeAll_cons_iff {encode : α → Except WireFault Bytes} {item : α}
    {items : List α} {input rest : Bytes} :
    Spells (encodeAll encode) (item :: items) input rest ↔
      ∃ middle, Spells encode item input middle ∧
        Spells (encodeAll encode) items middle rest := by
  constructor
  · intro spelled
    obtain ⟨octets, encoded, rfl⟩ := spelled
    obtain ⟨front, back, frontEncoded, backEncoded, rfl⟩ :=
      encodeAll_cons_eq_ok_iff.mp encoded
    exact ⟨back ++ rest, ⟨front, frontEncoded, List.append_assoc ..⟩,
      spells_append backEncoded rest⟩
  · intro parts
    obtain ⟨_, ⟨front, frontEncoded, rfl⟩, back, backEncoded, rfl⟩ := parts
    exact ⟨front ++ back,
      encodeAll_cons_eq_ok_iff.mpr ⟨front, back, frontEncoded, backEncoded, rfl⟩,
      (List.append_assoc ..).symm⟩

theorem spells_encodeAll_append_iff {encode : α → Except WireFault Bytes}
    {items others : List α} {input rest : Bytes} :
    Spells (encodeAll encode) (items ++ others) input rest ↔
      ∃ middle, Spells (encodeAll encode) items input middle ∧
        Spells (encodeAll encode) others middle rest := by
  induction items generalizing input with
  | nil => simp [spells_encodeAll_nil_iff]
  | cons item items ih =>
      simp only [List.cons_append, spells_encodeAll_cons_iff, ih]
      constructor
      · rintro ⟨afterItem, first, middle, front, back⟩
        exact ⟨middle, ⟨afterItem, first, front⟩, back⟩
      · rintro ⟨middle, ⟨afterItem, first, front⟩, back⟩
        exact ⟨afterItem, first, middle, front, back⟩

theorem spells_attribute_iff {attr : Attribute} {input rest : Bytes} :
    Spells Attribute.encode attr input rest ↔
      ∃ afterTag afterName afterValue,
        input = attr.first.tag.code :: afterTag ∧
          Spells (encodeField attr.name) (Utf8.encode attr.name) afterTag afterName ∧
          Spells (encodeField attr.name) attr.first.octets afterName afterValue ∧
          Spells (encodeAll (encodeAdditional attr.name)) attr.more afterValue rest := by
  constructor
  · intro spelled
    obtain ⟨octets, encoded, rfl⟩ := spelled
    obtain ⟨name, nameEncoded, encoded⟩ := bind_eq_ok_iff.mp encoded
    obtain ⟨value, valueEncoded, encoded⟩ := bind_eq_ok_iff.mp encoded
    obtain ⟨more, moreEncoded, same⟩ := bind_eq_ok_iff.mp encoded
    cases same
    refine ⟨name ++ (value ++ (more ++ rest)), value ++ (more ++ rest), more ++ rest, ?_,
      spells_append nameEncoded _, spells_append valueEncoded _, spells_append moreEncoded _⟩
    simp
  · intro parts
    obtain ⟨_, _, _, rfl, ⟨name, nameEncoded, rfl⟩, ⟨value, valueEncoded, rfl⟩,
      more, moreEncoded, rfl⟩ := parts
    refine ⟨[attr.first.tag.code] ++ name ++ value ++ more, ?_, by simp⟩
    exact bind_eq_ok_iff.mpr ⟨name, nameEncoded, bind_eq_ok_iff.mpr
      ⟨value, valueEncoded, bind_eq_ok_iff.mpr ⟨more, moreEncoded, rfl⟩⟩⟩

theorem spells_group_iff {group : AttributeGroup} {input rest : Bytes} :
    Spells AttributeGroup.encode group input rest ↔
      ∃ afterTag, input = group.tag.code :: afterTag ∧
        Spells (encodeAll Attribute.encode) group.attributes afterTag rest := by
  constructor
  · intro spelled
    obtain ⟨octets, encoded, rfl⟩ := spelled
    obtain ⟨attributes, attributesEncoded, same⟩ := bind_eq_ok_iff.mp encoded
    cases same
    exact ⟨attributes ++ rest, rfl, spells_append attributesEncoded rest⟩
  · intro parts
    obtain ⟨_, rfl, attributes, attributesEncoded, rfl⟩ := parts
    exact ⟨group.tag.code :: attributes,
      bind_eq_ok_iff.mpr ⟨attributes, attributesEncoded, rfl⟩, rfl⟩

theorem spells_attributes_iff {attributes : Attributes} {input rest : Bytes} :
    Spells Attributes.encode attributes input rest ↔
      Spells (encodeAll AttributeGroup.encode) attributes.groups input
        (DelimiterTag.endOfAttributes.code :: rest) := by
  constructor
  · intro spelled
    obtain ⟨octets, encoded, rfl⟩ := spelled
    obtain ⟨groups, groupsEncoded, same⟩ := bind_eq_ok_iff.mp encoded
    cases same
    exact ⟨groups, groupsEncoded, List.append_assoc ..⟩
  · intro spelled
    obtain ⟨groups, groupsEncoded, rfl⟩ := spelled
    exact ⟨groups ++ [DelimiterTag.endOfAttributes.code],
      bind_eq_ok_iff.mpr ⟨groups, groupsEncoded, rfl⟩, by simp⟩

theorem encode_message_eq_ok_iff {message : Message} {octets : Bytes} :
    message.encode = .ok octets ↔
      ∃ afterHeader, octets = message.header.toBytes ++ afterHeader ∧
        Spells Attributes.encode message.attributes afterHeader message.payload := by
  constructor
  · intro encoded
    obtain ⟨attributes, attributesEncoded, same⟩ := bind_eq_ok_iff.mp encoded
    cases same
    exact ⟨attributes ++ message.payload, List.append_assoc ..,
      spells_append attributesEncoded _⟩
  · intro parts
    obtain ⟨_, rfl, attributes, attributesEncoded, rfl⟩ := parts
    refine bind_eq_ok_iff.mpr ⟨attributes, attributesEncoded, ?_⟩
    rw [← List.append_assoc]
    rfl

end PrintProxy.Wire
