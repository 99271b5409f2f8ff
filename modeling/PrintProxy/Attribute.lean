import PrintProxy.Fault
import PrintProxy.Uri
import PrintProxy.Value.Text

/-!
# Attributes

An attribute has a name and one or more values.  It keeps each value as a tag
and octets, whether or not the octets make sense under the tag; the typed views
`value`, `values`, `int`, `bool` and `uri` interpret them.
-/

namespace PrintProxy

/-- Octets under a value tag. -/
structure TaggedValue where
  tag : ValueTag
  octets : Bytes
deriving DecidableEq, Repr

namespace TaggedValue

/-- A typed value in its wire form. -/
def ofValue (value : Value) : TaggedValue := ⟨value.tag, value.toBytes⟩

def value (tagged : TaggedValue) : Except WireFault Value := Value.parse tagged.tag tagged.octets

/-- The text that shows the value: the typed value if there is one with a meaning, the octets
otherwise. -/
def render (tagged : TaggedValue) : String :=
  match tagged.value with
  | .ok (.other _ _) | .error _ => tagged.octets.toHex
  | .ok value => value.render

end TaggedValue

/-- A named attribute with its values in wire order. -/
structure Attribute where
  name : String
  first : TaggedValue
  more : List TaggedValue
deriving DecidableEq, Repr

namespace Attribute

def ofValue (name : String) (value : Value) : Attribute := ⟨name, .ofValue value, []⟩

/-- An attribute whose values keep their own tags; without any it has no value. -/
def ofValues (name : String) : List Value → Attribute
  | [] => ofValue name .noValue
  | value :: values => ⟨name, .ofValue value, values.map .ofValue⟩

/-- An attribute whose values share a tag; without any it has one without octets. -/
def ofOctets (tag : ValueTag) (name : String) : List Bytes → Attribute
  | [] => ⟨name, ⟨tag, []⟩, []⟩
  | octets :: rest => ⟨name, ⟨tag, octets⟩, rest.map fun octets => ⟨tag, octets⟩⟩

def ofTexts (tag : ValueTag) (name : String) (texts : List String) : Attribute :=
  ofOctets tag name (texts.map Utf8.encode)

/-- All values in wire order. -/
def tagged (attr : Attribute) : List TaggedValue := attr.first :: attr.more

def isMultiValued (attr : Attribute) : Bool := !attr.more.isEmpty

def value (attr : Attribute) : Except WireFault Value := attr.first.value

/-- All values, unless one has octets of a wrong length. -/
def values (attr : Attribute) : Except WireFault (List Value) :=
  attr.tagged.mapM TaggedValue.value

/-- The number of a first value that is an integer or an enum. -/
def int (attr : Attribute) : Except Fault Int32 :=
  match attr.value with
  | .ok (.integer number) | .ok (.enum number) => .ok number
  | .ok _ => .error (.invalidAttributeType attr.name)
  | .error fault => .error (.wire fault)

/-- The truth of a first value that is a boolean. -/
def bool (attr : Attribute) : Except Fault Bool :=
  match attr.value with
  | .ok (.boolean truth) => .ok truth
  | .ok _ => .error (.invalidAttributeType attr.name)
  | .error fault => .error (.wire fault)

/-- The octets of the first value as a text, whatever their tag. -/
def string (attr : Attribute) : String := Utf8.decodeRepairing attr.first.octets

/-- The URI of a first value under the tag for URIs. -/
def uri (attr : Attribute) : Except Fault Uri :=
  if attr.first.tag = .uri then
    match Uri.parse attr.string with
    | .ok uri => .ok uri
    | .error fault => .error (.invalidUri fault)
  else .error (.invalidAttributeType attr.name)

/-- The name and the first value; dots stand for further ones. -/
def render (attr : Attribute) : String :=
  attr.name ++ "=" ++ attr.first.render ++ (if attr.isMultiValued then ",..." else "")

def renderAll (attr : Attribute) : String :=
  attr.name ++ "=" ++ ",".intercalate (attr.tagged.map TaggedValue.render)

end Attribute

end PrintProxy
