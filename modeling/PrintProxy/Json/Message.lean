import PrintProxy.Json.Label
import PrintProxy.Message

/-!
# Messages as JSON

How messages and their parts are stored.  Octets are lists of numbers, tags are
labels, and a version is one number.  What has been stored is read back as it
was; a stored value tag need not be the one that its code is looked up as.
-/

namespace PrintProxy

namespace Version

def toJson (version : Version) : Json := .integer version.word.toNat

def ofJson? (json : Json) : Option Version := json.uInt16?.map ofWord

end Version

namespace Header

def fieldNames : List String := ["version", "operation_or_status", "request_id"]

def toJson (header : Header) : Json :=
  .object
    [("version", header.version.toJson),
      ("operation_or_status", .integer header.code.toNat),
      ("request_id", .integer header.requestId.toInt)]

def ofJson? (json : Json) : Option Header := do
  let [version, code, requestId] ← json.fields? fieldNames | none
  return ⟨← Version.ofJson? version, ← code.uInt16?, ← requestId.int32?⟩

end Header

namespace TaggedValue

def fieldNames : List String := ["tag", "value"]

def toJson (tagged : TaggedValue) : Json :=
  .object [("tag", tagged.tag.toJson), ("value", .ofBytes tagged.octets)]

def ofJson? (json : Json) : Option TaggedValue := do
  let [tag, octets] ← json.fields? fieldNames | none
  return ⟨← ValueTag.ofJson? tag, ← octets.bytes?⟩

end TaggedValue

namespace Attribute

def fieldNames : List String := ["tag", "name", "value", "additional_values"]

def toJson (attr : Attribute) : Json :=
  .object
    [("tag", attr.first.tag.toJson),
      ("name", .string attr.name),
      ("value", .ofBytes attr.first.octets),
      ("additional_values", .array (attr.more.map TaggedValue.toJson))]

def ofJson? (json : Json) : Option Attribute := do
  let [tag, name, octets, more] ← json.fields? fieldNames | none
  let tag ← ValueTag.ofJson? tag
  return ⟨← name.string?, ⟨tag, ← octets.bytes?⟩, ← more.list? TaggedValue.ofJson?⟩

end Attribute

namespace AttributeGroup

def fieldNames : List String := ["tag", "attributes"]

def toJson (group : AttributeGroup) : Json :=
  .object
    [("tag", group.tag.toJson), ("attributes", .array (group.attributes.map Attribute.toJson))]

def ofJson? (json : Json) : Option AttributeGroup := do
  let [tag, attributes] ← json.fields? fieldNames | none
  return ⟨← DelimiterTag.ofJson? tag, ← attributes.list? Attribute.ofJson?⟩

end AttributeGroup

namespace Attributes

def fieldNames : List String := ["groups"]

def toJson (attributes : Attributes) : Json :=
  .object [("groups", .array (attributes.groups.map AttributeGroup.toJson))]

def ofJson? (json : Json) : Option Attributes := do
  let [groups] ← json.fields? fieldNames | none
  return ⟨← groups.list? AttributeGroup.ofJson?⟩

end Attributes

namespace Message

def fieldNames : List String := ["header", "attributes", "payload"]

def toJson (message : Message) : Json :=
  .object
    [("header", message.header.toJson),
      ("attributes", message.attributes.toJson),
      ("payload", .ofBytes message.payload)]

def ofJson? (json : Json) : Option Message := do
  let [header, attributes, payload] ← json.fields? fieldNames | none
  return ⟨← Header.ofJson? header, ← Attributes.ofJson? attributes, ← payload.bytes?⟩

end Message

end PrintProxy
