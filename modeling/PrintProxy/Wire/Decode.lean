import PrintProxy.Message
import PrintProxy.Wire.Field

/-!
# Decoding messages

A message is a header, groups, the end tag and a payload.  A group is a
delimiter and attributes up to the next delimiter.  An attribute is a tag, a
name and a value, and takes with it the values that follow without a name.
Looking at the tag and the name length of what comes next decides where each of
the three repetitions ends.
-/

namespace PrintProxy.Wire

/-- One more value of an attribute, if the next value has no name. -/
def nextAdditional (input : Bytes) : Option (Read TaggedValue) :=
  match peekUnit input with
  | none => none
  | some head =>
      if head.isAdditional then
        (ValueTag.ofCode? head.tag).map fun tag =>
          (readField (input.drop unitHeadLength)).map (TaggedValue.mk tag)
      else none

theorem nextAdditional_shrinks {input rest : Bytes} {value : TaggedValue}
    (step : nextAdditional input = some (.ok value rest)) : rest.length < input.length := by
  unfold nextAdditional at step
  split at step
  · cases step
  · split at step
    · obtain ⟨tag, _, found⟩ := Option.map_eq_some_iff.mp step
      obtain ⟨octets, fieldFound, _⟩ := Read.map_eq_ok.mp found
      exact Nat.lt_of_lt_of_le (length_rest_of_readField fieldFound) (by simp)
    · cases step

/-- An attribute with all its values. -/
def readAttribute (input : Bytes) : Read Attribute :=
  (readOctet input).andThen fun code rest =>
    match ValueTag.ofCode? code with
    | none => .fault (.unrecognizedTag code) rest
    | some tag =>
        (readName rest).andThen fun name rest =>
          (readField rest).andThen fun octets rest =>
            (Read.many nextAdditional nextAdditional_shrinks [] rest).map fun more =>
              ⟨name, ⟨tag, octets⟩, more⟩

theorem length_rest_of_readAttribute {input rest : Bytes} {attr : Attribute}
    (found : readAttribute input = .ok attr rest) : rest.length < input.length := by
  obtain ⟨code, afterTag, tagFound, found⟩ := Read.andThen_eq_ok.mp found
  split at found
  · cases found
  · obtain ⟨name, afterName, nameFound, found⟩ := Read.andThen_eq_ok.mp found
    obtain ⟨octets, afterValue, valueFound, found⟩ := Read.andThen_eq_ok.mp found
    obtain ⟨more, moreFound, _⟩ := Read.map_eq_ok.mp found
    have tagShrinks := length_rest_of_readOctet tagFound
    have nameShrinks := length_rest_of_readName nameFound
    have valueShrinks := length_rest_of_readField valueFound
    have moreShrinks := Read.length_rest_le_of_many moreFound
    omega

/-- One more attribute of a group, unless a delimiter comes next. -/
def nextAttribute (input : Bytes) : Option (Read Attribute) :=
  match peekOctet input with
  | .error cause => some (.fault cause input)
  | .ok code => if DelimiterTag.isDelimiterCode code then none else some (readAttribute input)

theorem nextAttribute_shrinks {input rest : Bytes} {attr : Attribute}
    (step : nextAttribute input = some (.ok attr rest)) : rest.length < input.length := by
  unfold nextAttribute at step
  split at step
  · cases step
  · split at step
    · cases step
    · exact length_rest_of_readAttribute (Option.some.inj step)

/-- A group: a delimiter and the attributes up to the next one. -/
def readGroup (input : Bytes) : Read AttributeGroup :=
  (readOctet input).andThen fun code rest =>
    match DelimiterTag.ofCode? code with
    | none => .fault (.unrecognizedTag code) rest
    | some tag =>
        (Read.many nextAttribute nextAttribute_shrinks [] rest).map (AttributeGroup.mk tag)

theorem length_rest_of_readGroup {input rest : Bytes} {group : AttributeGroup}
    (found : readGroup input = .ok group rest) : rest.length < input.length := by
  obtain ⟨code, afterTag, tagFound, found⟩ := Read.andThen_eq_ok.mp found
  split at found
  · cases found
  · obtain ⟨attributes, attributesFound, _⟩ := Read.map_eq_ok.mp found
    exact Nat.lt_of_le_of_lt (Read.length_rest_le_of_many attributesFound)
      (length_rest_of_readOctet tagFound)

/-- One more group of a message, unless the end tag comes next. -/
def nextGroup (input : Bytes) : Option (Read AttributeGroup) :=
  match peekOctet input with
  | .error cause => some (.fault cause input)
  | .ok code =>
      if code = DelimiterTag.endOfAttributes.code then none else some (readGroup input)

theorem nextGroup_shrinks {input rest : Bytes} {group : AttributeGroup}
    (step : nextGroup input = some (.ok group rest)) : rest.length < input.length := by
  unfold nextGroup at step
  split at step
  · cases step
  · split at step
    · cases step
    · exact length_rest_of_readGroup (Option.some.inj step)

/-- All groups and the end tag behind them. -/
def readAttributes (input : Bytes) : Read Attributes :=
  (Read.many nextGroup nextGroup_shrinks [] input).andThen fun groups rest =>
    (readOctet rest).map fun _ => ⟨groups⟩

/-- A message; everything behind the end tag is its payload. -/
def readMessage (input : Bytes) : Read Message :=
  (readHeader input).andThen fun header rest =>
    (readAttributes rest).andThen fun attributes payload =>
      .ok ⟨header, attributes, payload⟩ []

end PrintProxy.Wire

namespace PrintProxy.Message

def decode (octets : Bytes) : Except WireFault Message := (Wire.readMessage octets).result

end PrintProxy.Message
