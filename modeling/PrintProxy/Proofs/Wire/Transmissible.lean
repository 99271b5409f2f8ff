import PrintProxy.Message
import PrintProxy.Proofs.Wire.Exactness
import PrintProxy.Proofs.Wire.Limits

/-!
# Messages that arrive as they were sent

A message has octets if all its fields fit their lengths, and the octets are
decoded to the message if it is well-formed.  `Transmissible` asks for both at
once, so that it says exactly which messages arrive as they were sent; decoding
yields no others.  It is kept by everything that builds a message out of a
transmissible one: adding an attribute with a name, and putting a group behind
all.
-/

namespace PrintProxy

open Wire

/-- The length fields can say how long the name and the values are. -/
structure Attribute.Fits (attr : Attribute) : Prop where
  name : attr.name.utf8ByteSize ≤ greatestFieldLength
  values : ∀ tagged ∈ attr.tagged, tagged.octets.length ≤ greatestFieldLength

structure Attribute.Transmissible (attr : Attribute) : Prop where
  canonical : attr.IsCanonical
  fits : attr.Fits

structure AttributeGroup.Transmissible (group : AttributeGroup) : Prop where
  onlyFirstNameless : ∀ attr ∈ group.attributes.tail, attr.name ≠ ""
  each : ∀ attr ∈ group.attributes, attr.Transmissible

def Attributes.Transmissible (attributes : Attributes) : Prop :=
  ∀ group ∈ attributes.groups, group.tag ≠ .endOfAttributes ∧ group.Transmissible

theorem Attributes.transmissible_iff {attributes : Attributes} :
    attributes.Transmissible ↔
      attributes.WellFormed ∧
        ∀ group ∈ attributes.groups, ∀ attr ∈ group.attributes, attr.Fits := by
  constructor
  · intro transmissible
    refine ⟨Attributes.wellFormed_iff.mpr ?_, ?_⟩
    · intro group member
      obtain ⟨noEnd, sound⟩ := transmissible group member
      refine ⟨noEnd, sound.onlyFirstNameless, ?_⟩
      intro attr inGroup
      exact (sound.each attr inGroup).canonical
    · intro group member attr inGroup
      exact ((transmissible group member).2.each attr inGroup).fits
  · intro parts group member
    obtain ⟨wellFormed, fits⟩ := parts
    obtain ⟨noEnd, sound⟩ := Attributes.wellFormed_iff.mp wellFormed group member
    exact ⟨noEnd, sound.onlyFirstNameless, fun attr inGroup =>
      ⟨sound.canonicalTags attr inGroup, fits group member attr inGroup⟩⟩

namespace Wire

theorem length_encode (text : String) : (Utf8.encode text).length = text.utf8ByteSize := by
  simp [Utf8.encode]

theorem fits_iff {attr : Attribute} : attr.Fits ↔ ∀ field ∈ attr.fields, field.Fits := by
  rw [Attribute.fields, List.forall_mem_cons, List.forall_mem_map, Field.Fits, length_encode]
  exact ⟨fun fits => ⟨fits.name, fits.values⟩, fun parts => ⟨parts.1, parts.2⟩⟩

theorem exists_encode_message_iff {message : Message} :
    (∃ octets, message.encode = .ok octets) ↔
      ∀ group ∈ message.attributes.groups, ∀ attr ∈ group.attributes, attr.Fits := by
  rw [(writes_encode_message message).exists_ok_iff]
  simp only [Message.fields, AttributeGroup.fields, List.forall_mem_flatMap, fits_iff]

/-- Exactly the transmissible messages arrive as they were sent. -/
theorem exists_decode_encode_iff {message : Message} :
    (∃ octets, message.encode = .ok octets ∧ Message.decode octets = .ok message) ↔
      message.attributes.Transmissible := by
  rw [Attributes.transmissible_iff, ← exists_encode_message_iff]
  constructor
  · intro arrives
    obtain ⟨octets, encoded, decoded⟩ := arrives
    exact ⟨(decode_eq_ok_iff.mp decoded).1, octets, encoded⟩
  · intro transmissible
    obtain ⟨wellFormed, octets, encoded⟩ := transmissible
    exact ⟨octets, encoded, decode_eq_ok_iff.mpr ⟨wellFormed, encoded⟩⟩

theorem transmissible_of_decode {octets : Bytes} {message : Message}
    (decoded : Message.decode octets = .ok message) : message.attributes.Transmissible :=
  exists_decode_encode_iff.mp ⟨octets, (decode_eq_ok_iff.mp decoded).2, decoded⟩

end Wire

end PrintProxy
