import PrintProxy.Message

/-!
# Encoding messages

The octets of attributes, groups and messages.  A name or a value has its
length before it in two octets; one that is longer than they can say is a fault,
and the first such field of a message is the one reported.
-/

namespace PrintProxy

namespace Wire

/-- The most octets that a length field can announce. -/
def greatestFieldLength : Nat := 65535

/-- Octets behind their number, in the attribute with the given name. -/
def encodeField (name : String) (octets : Bytes) : Except WireFault Bytes :=
  if octets.length ≤ greatestFieldLength then
    .ok (Bytes.ofUInt16 (UInt16.ofNat octets.length) ++ octets)
  else .error (.valueTooLong name octets.length)

/-- A further value: its tag, an empty name and its octets. -/
def encodeAdditional (name : String) (tagged : TaggedValue) : Except WireFault Bytes := do
  let field ← encodeField name tagged.octets
  return [tagged.tag.code, 0, 0] ++ field

/-- The octets of items, one item after another; the first fault ends the work. -/
def encodeAll {α : Type} (encodeItem : α → Except WireFault Bytes) (items : List α) :
    Except WireFault Bytes := do
  let parts ← items.mapM encodeItem
  return parts.flatten

end Wire

namespace Attribute

/-- The octets of an attribute: tag, name and value, then the further values. -/
def encode (attr : Attribute) : Except WireFault Bytes := do
  let name ← Wire.encodeField attr.name (Utf8.encode attr.name)
  let value ← Wire.encodeField attr.name attr.first.octets
  let more ← Wire.encodeAll (Wire.encodeAdditional attr.name) attr.more
  return [attr.first.tag.code] ++ name ++ value ++ more

end Attribute

namespace AttributeGroup

/-- The octets of a group: its delimiter, then its attributes. -/
def encode (group : AttributeGroup) : Except WireFault Bytes := do
  let attributes ← Wire.encodeAll Attribute.encode group.attributes
  return [group.tag.code] ++ attributes

end AttributeGroup

namespace Attributes

/-- The octets of all groups and of the end tag behind them. -/
def encode (attributes : Attributes) : Except WireFault Bytes := do
  let groups ← Wire.encodeAll AttributeGroup.encode attributes.groups
  return groups ++ [DelimiterTag.endOfAttributes.code]

end Attributes

namespace Message

/-- The octets of a message: header, groups, end tag and payload. -/
def encode (message : Message) : Except WireFault Bytes := do
  let attributes ← message.attributes.encode
  return message.header.toBytes ++ attributes ++ message.payload

end Message

end PrintProxy
