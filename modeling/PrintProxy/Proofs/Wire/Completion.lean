import PrintProxy.Proofs.Text.Length
import PrintProxy.Proofs.Wire.Absorption
import PrintProxy.Proofs.Wire.MoreInput
import PrintProxy.Proofs.Wire.Transmissible

/-!
# Completing truncated input

Input that is reported as truncated could have gone on.  Wherever it ends, what
is missing of a field can be made up, and so what is missing of a value, an
attribute, a group and the message around it.  Only the octets of a name cannot
be chosen freely: those that are there may already spell no text.
-/

namespace PrintProxy

/-- There are texts of every size. -/
theorem exists_text (size : Nat) : ∃ text, (Utf8.encode text).length = size := by
  have letters : String.utf8Len (List.replicate size 'a') = size := by
    induction size with
    | zero => rfl
    | succ size ih =>
        rw [List.replicate_succ, String.utf8Len_cons, ih]
        rfl
  refine ⟨String.ofList (List.replicate size 'a'), ?_⟩
  rw [Wire.length_encode, String.utf8ByteSize_ofList, letters]

namespace Wire

variable {input rest begun more octets : Bytes} {cause : WireFault}

/-- The length before a field may say that its octets are still to come. -/
theorem spells_of_length {length : UInt16} (sized : octets.length = length.toNat) (name : String)
    (rest : Bytes) :
    Spells (encodeField name) octets (Bytes.ofUInt16 length ++ (octets ++ rest)) rest := by
  rw [spells_encodeField_iff, sized, UInt16.ofNat_toNat, List.append_assoc]
  exact ⟨Nat.le_of_lt_succ length.toNat_lt, rfl⟩

/-- A field is cut short within its length or behind it. -/
theorem exists_length_of_readField (failed : readField input = .fault cause rest) :
    ∃ (more : Bytes) (length : UInt16) (begun : Bytes),
      input ++ more = Bytes.ofUInt16 length ++ begun ∧ begun.length ≤ length.toNat ∧
        (begun ≠ [] → more = [] ∧ begun.length < length.toNat) := by
  rcases Read.andThen_eq_fault.mp failed with lengthFailed | ⟨length, middle, found, octetsFailed⟩
  · match input, lengthFailed with
    | [], _ => exact ⟨[0, 0], 0, [], by decide, by decide, by simp⟩
    | [high], _ =>
        have written : Bytes.ofUInt16 (Bytes.toUInt16 [high, 0]) = [high, 0] :=
          Bytes.ofUInt16_toUInt16 rfl
        exact ⟨[0], _, [], by rw [written]; rfl, Nat.zero_le _, by simp⟩
  · have spelled := readUInt16_eq_ok_iff.mp found
    simp only [readOctets, List.length_take] at octetsFailed
    have few : middle.length < length.toNat := by
      split at octetsFailed
      · cases octetsFailed
      · omega
    exact ⟨[], length, middle, by rw [List.append_nil, spelled], Nat.le_of_lt few,
      fun _ => ⟨rfl, few⟩⟩

theorem exists_value_of_readField (name : String) (failed : readField input = .fault cause rest) :
    ∃ more octets, Spells (encodeField name) octets (input ++ more) [] := by
  obtain ⟨more, length, begun, same, few, _⟩ := exists_length_of_readField failed
  have sized : (begun ++ List.replicate (length.toNat - begun.length) 0).length =
      length.toNat := by
    rw [List.length_append, List.length_replicate]
    omega
  have whole := spells_of_length sized name []
  rw [List.append_nil, ← List.append_assoc, ← same, List.append_assoc] at whole
  exact ⟨_, _, whole⟩

/-- Where no octet of a name is there yet, it can be any name of the stated length. -/
theorem exists_name_of_readField (failed : readField input = .fault cause rest) :
    (∃ more name, Spells (encodeField name) (Utf8.encode name) (input ++ more) []) ∨
      ∃ (length : UInt16) (begun : Bytes), input = Bytes.ofUInt16 length ++ begun ∧
        begun ≠ [] ∧ begun.length < length.toNat := by
  obtain ⟨more, length, begun, same, few, inside⟩ := exists_length_of_readField failed
  by_cases nothing : begun = []
  · left
    obtain ⟨name, sized⟩ := exists_text length.toNat
    have whole := spells_of_length sized name []
    rw [nothing, List.append_nil] at same
    rw [List.append_nil, ← same, List.append_assoc] at whole
    exact ⟨_, name, whole⟩
  · right
    obtain ⟨rfl, missing⟩ := inside nothing
    rw [List.append_nil] at same
    exact ⟨length, begun, same, nothing, missing⟩

/-- With some octets behind it, the input spells items one behind another. -/
def HasCompletion {α : Type} (encode : α → Except WireFault Bytes) (readable : α → Prop)
    (input : Bytes) : Prop :=
  ∃ more items, (∀ item ∈ items, readable item) ∧ Spells (encodeAll encode) items (input ++ more) []

namespace HasCompletion

variable {α : Type} {encode : α → Except WireFault Bytes} {readable : α → Prop}

theorem nil : HasCompletion encode readable [] :=
  ⟨[], [], by simp, spells_encodeAll_nil_iff.mpr rfl⟩

theorem of_item {item : α} (isReadable : readable item)
    (spelled : Spells encode item (input ++ more) []) : HasCompletion encode readable input :=
  ⟨more, [item], by simpa using isReadable,
    spells_encodeAll_cons_iff.mpr ⟨[], spelled, spells_encodeAll_nil_iff.mpr rfl⟩⟩

theorem of_append (completion : HasCompletion encode readable (input ++ more)) :
    HasCompletion encode readable input := by
  obtain ⟨others, items, areReadable, spelled⟩ := completion
  rw [List.append_assoc] at spelled
  exact ⟨more ++ others, items, areReadable, spelled⟩

/-- What stands behind items is completed together with them. -/
theorem behind {items : List α} (areReadable : ∀ item ∈ items, readable item)
    (spelled : Spells (encodeAll encode) items input rest)
    (completion : HasCompletion encode readable rest) : HasCompletion encode readable input := by
  obtain ⟨more, others, othersReadable, othersSpelled⟩ := completion
  exact ⟨more, items ++ others, List.forall_mem_append.mpr ⟨areReadable, othersReadable⟩,
    spells_encodeAll_append_iff.mpr ⟨_, spells_append_more_iff.mpr spelled, othersSpelled⟩⟩

end HasCompletion

/-- Further values of an attribute can be completed, whatever its name. -/
theorem hasCompletion_of_nextAdditional (name : String)
    (breaks : Read.BreaksOff nextAdditional input cause rest) :
    HasCompletion (encodeAdditional name) (fun tagged => tagged.tag.IsCanonical) input := by
  obtain ⟨values, middle, passes, fails⟩ := Read.breaksOff_iff.mp breaks
  obtain ⟨canonical, spelled⟩ := (passes_nextAdditional_iff name).mp passes
  refine .behind canonical spelled ?_
  obtain ⟨code, afterHead, rfl⟩ := unit_of_nextAdditional fails
  rw [nextAdditional_unit] at fails
  obtain ⟨tag, known, failed⟩ := Option.map_eq_some_iff.mp fails
  obtain ⟨rfl, tagCanonical⟩ := ValueTag.ofCode?_eq_some_iff.mp known
  obtain ⟨more, octets, value⟩ := exists_value_of_readField name (Read.map_eq_fault.mp failed)
  have isCanonical : (TaggedValue.mk tag octets).tag.IsCanonical := tagCanonical
  exact .of_item isCanonical (spells_encodeAdditional_iff.mpr ⟨_, rfl, value⟩)

/-- The input ends within a name: its tag, its length and its first octets are there, and some are
missing. -/
def CutsName (input begun : Bytes) (missing : Nat) : Prop :=
  ∃ (tag : ValueTag) (length : UInt16), tag.IsCanonical ∧
    input = tag.code :: (Bytes.ofUInt16 length ++ begun) ∧
    length.toNat = begun.length + missing ∧ begun ≠ [] ∧ 0 < missing

theorem readField_of_readName (truncation : cause.IsTruncation)
    (failed : readName input = .fault cause rest) : readField input = .fault cause rest := by
  rcases Read.andThen_eq_fault.mp failed with fieldFailed | ⟨octets, _, _, decodeFailed⟩
  · exact fieldFailed
  · split at decodeFailed
    · cases decodeFailed
    · cases decodeFailed
      exact absurd truncation (WireFault.not_isTruncation_invalidName octets)

theorem hasCompletion_of_parts {tag : ValueTag} {name : String}
    {afterTag afterName afterValue : Bytes} (canonical : tag.IsCanonical)
    (nameSpelled : Spells (encodeField name) (Utf8.encode name) afterTag afterName)
    (valueSpelled : Spells (encodeField name) octets afterName afterValue)
    (completion :
      HasCompletion (encodeAdditional name) (fun tagged => tagged.tag.IsCanonical) afterValue) :
    HasCompletion Attribute.encode Attribute.IsCanonical (tag.code :: afterTag) := by
  obtain ⟨more, values, valuesCanonical, valuesSpelled⟩ := completion
  have isCanonical : Attribute.IsCanonical ⟨name, ⟨tag, octets⟩, values⟩ :=
    List.forall_mem_cons.mpr ⟨canonical, valuesCanonical⟩
  exact .of_item isCanonical (spells_attribute_iff.mpr
    ⟨afterTag ++ more, afterName ++ more, afterValue ++ more, rfl,
      spells_append_more_iff.mpr nameSpelled, spells_append_more_iff.mpr valueSpelled,
      valuesSpelled⟩)

/-- An attribute can be completed, unless its name is cut. -/
theorem hasCompletion_of_readAttribute {tag : ValueTag} {afterTag : Bytes}
    (canonical : tag.IsCanonical) (truncation : cause.IsTruncation)
    (failed : readAttribute (tag.code :: afterTag) = .fault cause rest) :
    HasCompletion Attribute.encode Attribute.IsCanonical (tag.code :: afterTag) ∨
      ∃ begun missing, CutsName (tag.code :: afterTag) begun missing := by
  rw [readAttribute_cons (ValueTag.ofCode?_eq_some_iff.mpr ⟨rfl, canonical⟩)] at failed
  rcases Read.andThen_eq_fault.mp failed with nameFailed | ⟨name, afterName, nameFound, failed⟩
  · have fieldFailed := readField_of_readName truncation nameFailed
    rcases exists_name_of_readField fieldFailed with
      ⟨more, name, nameSpelled⟩ | ⟨length, begun, same, notEmpty, few⟩
    · left
      have withValue : Spells (encodeField name) (Utf8.encode name)
          (afterTag ++ more ++ [0, 0]) [0, 0] :=
        spells_append_more_iff.mpr nameSpelled
      have emptyValue : Spells (encodeField name) [] [0, 0] [] :=
        spells_encodeField_iff.mpr ⟨Nat.zero_le _, by decide⟩
      exact .of_append (.of_append (hasCompletion_of_parts canonical withValue emptyValue .nil))
    · right
      exact ⟨begun, length.toNat - begun.length, tag, length, canonical, by rw [same],
        by omega, notEmpty, by omega⟩
  · left
    have nameSpelled := readName_eq_ok_iff.mp nameFound
    rcases Read.andThen_eq_fault.mp failed with valueFailed | ⟨octets, afterValue, found, failed⟩
    · obtain ⟨more, octets, valueSpelled⟩ := exists_value_of_readField name valueFailed
      exact .of_append (hasCompletion_of_parts canonical (spells_append_more_iff.mpr nameSpelled)
        valueSpelled .nil)
    · have valueSpelled := (readField_eq_ok_iff name).mp found
      have breaks := Read.many_eq_fault_iff.mp (Read.map_eq_fault.mp failed)
      exact hasCompletion_of_parts canonical nameSpelled valueSpelled
        (hasCompletion_of_nextAdditional name breaks)

theorem hasCompletion_of_nextAttribute (truncation : cause.IsTruncation)
    (fails : nextAttribute input = some (.fault cause rest)) :
    HasCompletion Attribute.encode Attribute.IsCanonical input ∨
      ∃ begun missing, CutsName input begun missing := by
  cases input with
  | nil => exact .inl .nil
  | cons code afterTag =>
      rw [nextAttribute_cons] at fails
      split at fails
      · cases fails
      · next notDelimiter =>
          obtain ⟨tag, known⟩ := exists_tag_of_noDelimiter (Bool.eq_false_iff.mpr notDelimiter)
          obtain ⟨rfl, canonical⟩ := ValueTag.ofCode?_eq_some_iff.mp known
          exact hasCompletion_of_readAttribute canonical truncation (Option.some.inj fails)

/-- Attributes can be completed, unless the name of the last one is cut. -/
theorem hasCompletion_of_attributes (truncation : cause.IsTruncation)
    (breaks : Read.BreaksOff nextAttribute input cause rest) :
    HasCompletion Attribute.encode Attribute.IsCanonical input ∨
      ∃ attrs unit begun missing, (∀ attr ∈ attrs, attr.IsCanonical) ∧
        Spells (encodeAll Attribute.encode) attrs input unit ∧ CutsName unit begun missing := by
  obtain ⟨attrs, unit, passes, fails⟩ := Read.breaksOff_iff.mp breaks
  obtain ⟨⟨_, canonical⟩, spelled, _⟩ := passes_nextAttribute_iff.mp passes
  rcases hasCompletion_of_nextAttribute truncation fails with completion | ⟨begun, missing, cuts⟩
  · exact .inl (completion.behind canonical spelled)
  · exact .inr ⟨attrs, unit, begun, missing, canonical, spelled, cuts⟩

theorem hasCompletion_of_tag {tag : DelimiterTag} {afterTag : Bytes}
    (noEnd : tag ≠ .endOfAttributes)
    (completion : HasCompletion Attribute.encode Attribute.IsCanonical afterTag) :
    HasCompletion AttributeGroup.encode AttributeGroup.Readable (tag.code :: afterTag) := by
  obtain ⟨more, attrs, canonical, spelled⟩ := completion
  have readable : AttributeGroup.Readable ⟨tag, attrs⟩ := ⟨noEnd, canonical⟩
  exact .of_item readable (spells_group_iff.mpr ⟨afterTag ++ more, rfl, spelled⟩)

theorem hasCompletion_of_nextGroup (truncation : cause.IsTruncation)
    (fails : nextGroup input = some (.fault cause rest)) :
    HasCompletion AttributeGroup.encode AttributeGroup.Readable input ∨
      ∃ (group : AttributeGroup) (unit begun : Bytes) (missing : Nat), group.Readable ∧
        Spells AttributeGroup.encode group input unit ∧ CutsName unit begun missing := by
  cases input with
  | nil => exact .inl .nil
  | cons code afterTag =>
      obtain ⟨noEnd, ⟨_, rfl, _⟩ | ⟨known, breaks⟩⟩ := nextGroup_cons_eq_fault_iff.mp fails
      · exact absurd truncation (WireFault.not_isTruncation_unrecognizedTag code)
      · obtain ⟨tag, isTag⟩ := Option.ne_none_iff_exists'.mp known
        obtain rfl := DelimiterTag.ofCode?_eq_some_iff.mp isTag
        have notEnd : tag ≠ .endOfAttributes := fun same => noEnd (congrArg _ same)
        rcases hasCompletion_of_attributes truncation breaks with
          completion | ⟨attrs, unit, begun, missing, canonical, spelled, cuts⟩
        · exact .inl (hasCompletion_of_tag notEnd completion)
        · exact .inr ⟨⟨tag, attrs⟩, unit, begun, missing, ⟨notEnd, canonical⟩,
            spells_group_iff.mpr ⟨_, rfl, spelled⟩, cuts⟩

/-- Groups can be completed, unless the name of the last attribute in the last one is cut. -/
theorem hasCompletion_of_groups (truncation : cause.IsTruncation)
    (breaks : Read.BreaksOff nextGroup input cause rest) :
    HasCompletion AttributeGroup.encode AttributeGroup.Readable input ∨
      ∃ (groups : List AttributeGroup) (group : AttributeGroup) (unit begun : Bytes)
        (missing : Nat),
        (∀ each ∈ groups ++ [group], each.Readable) ∧
        Spells (encodeAll AttributeGroup.encode) (groups ++ [group]) input unit ∧
        CutsName unit begun missing := by
  obtain ⟨groups, middle, passes, fails⟩ := Read.breaksOff_iff.mp breaks
  obtain ⟨wellFormed, spelled, _⟩ := passes_nextGroup_iff.mp passes
  have readable : ∀ group ∈ groups, group.Readable := fun group member =>
    ⟨(wellFormed group member).1, (wellFormed group member).2.canonicalTags⟩
  rcases hasCompletion_of_nextGroup truncation fails with
    completion | ⟨group, unit, begun, missing, lastReadable, lastSpelled, cuts⟩
  · exact .inl (completion.behind readable spelled)
  · right
    refine ⟨groups, group, unit, begun, missing, ?_, ?_, cuts⟩
    · exact List.forall_mem_append.mpr ⟨readable, by simpa using lastReadable⟩
    · exact spells_encodeAll_append_iff.mpr ⟨middle, spelled,
        spells_encodeAll_cons_iff.mpr ⟨unit, lastSpelled, spells_encodeAll_nil_iff.mpr rfl⟩⟩

/-- What stands behind the attributes of the last group is completed together with the groups. -/
theorem hasCompletion_of_open_group {groups : List AttributeGroup} {group : AttributeGroup}
    {unit : Bytes} (readable : ∀ each ∈ groups ++ [group], each.Readable)
    (spelled : Spells (encodeAll AttributeGroup.encode) (groups ++ [group]) input unit)
    (completion : HasCompletion Attribute.encode Attribute.IsCanonical unit) :
    HasCompletion AttributeGroup.encode AttributeGroup.Readable input := by
  obtain ⟨groupsReadable, lastReadable⟩ := List.forall_mem_append.mp readable
  have isReadable := lastReadable group List.mem_cons_self
  obtain ⟨middle, groupsSpelled, lastSpelled⟩ := spells_encodeAll_append_iff.mp spelled
  obtain ⟨_, groupSpelled, nothing⟩ := spells_encodeAll_cons_iff.mp lastSpelled
  rw [spells_encodeAll_nil_iff.mp nothing] at groupSpelled
  obtain ⟨afterTag, rfl, attrsSpelled⟩ := spells_group_iff.mp groupSpelled
  have whole := completion.behind isReadable.canonicalTags attrsSpelled
  exact .behind groupsReadable groupsSpelled (hasCompletion_of_tag isReadable.noEnd whole)

theorem exists_decode_of_hasCompletion (header : Header)
    (completion : HasCompletion AttributeGroup.encode AttributeGroup.Readable input) :
    ∃ more message, Message.decode (header.toBytes ++ input ++ more) = .ok message := by
  obtain ⟨more, groups, readable, spelled⟩ := completion
  let message : Message := ⟨header, ⟨groups⟩, []⟩
  have ended : Spells Attributes.encode message.attributes
      (input ++ more ++ [DelimiterTag.endOfAttributes.code]) [] :=
    spells_attributes_iff.mpr (spells_append_more_iff.mpr spelled)
  have encoded := encode_message_eq_ok_iff.mpr ⟨_, rfl, ended⟩
  have isReadable : message.Readable := readable
  have decoded := Message.decode_encode_absorbed isReadable encoded
  rw [List.append_assoc, ← List.append_assoc] at decoded
  exact ⟨_, message.absorbed, decoded⟩

/-- What is missing of a header can be anything. -/
theorem exists_header_of_readHeader (failed : readHeader input = .fault cause rest) :
    ∃ (more : Bytes) (header : Header), input ++ more = header.toBytes := by
  have short : input.length < 8 := by
    by_contra long
    match input, failed, Nat.le_of_not_lt long with
    | _ :: _ :: _ :: _ :: _ :: _ :: _ :: _ :: _, failed, _ => cases failed
  have whole : (input ++ List.replicate (8 - input.length) 0).length = 8 := by
    rw [List.length_append, List.length_replicate]
    omega
  refine ⟨List.replicate (8 - input.length) 0, ?_⟩
  match input ++ List.replicate (8 - input.length) 0, whole with
  | [major, minor, high, low, a, b, c, d], _ =>
      have read : readHeader [major, minor, high, low, a, b, c, d] =
          .ok ⟨⟨major, minor⟩, Bytes.toUInt16 [high, low], Bytes.toInt32 [a, b, c, d]⟩ [] := rfl
      exact ⟨_, by simpa using readHeader_eq_ok_iff.mp read⟩

/-- The octets of a message end within the name of an attribute. -/
def EndsInName (octets begun : Bytes) (missing : Nat) : Prop :=
  ∃ (header : Header) (groups : List AttributeGroup) (group : AttributeGroup)
    (afterHeader unit : Bytes),
    octets = header.toBytes ++ afterHeader ∧ (∀ each ∈ groups ++ [group], each.Readable) ∧
      Spells (encodeAll AttributeGroup.encode) (groups ++ [group]) afterHeader unit ∧
      CutsName unit begun missing

theorem exists_decode_or_endsInName {octets : Bytes} (truncation : cause.IsTruncation)
    (failed : Message.decode octets = .error cause) :
    (∃ more message, Message.decode (octets ++ more) = .ok message) ∨
      ∃ begun missing, EndsInName octets begun missing := by
  rcases decode_eq_error_iff_header_or_group.mp failed with
    ⟨rest, headerFailed⟩ | ⟨header, afterHeader, rest, rfl, breaks⟩
  · left
    obtain ⟨more, header, same⟩ := exists_header_of_readHeader headerFailed
    obtain ⟨behind, message, decoded⟩ := exists_decode_of_hasCompletion header .nil
    refine ⟨more ++ behind, message, ?_⟩
    rwa [List.append_nil, ← same, List.append_assoc] at decoded
  · rcases hasCompletion_of_groups truncation breaks with
      completion | ⟨groups, group, unit, begun, missing, readable, spelled, cuts⟩
    · exact .inl (exists_decode_of_hasCompletion header completion)
    · exact .inr ⟨begun, missing, header, groups, group, afterHeader, unit, rfl, readable, spelled,
        cuts⟩

variable {behind : Bytes} {missing : Nat}

/-- A cut name can be completed to any text that begins with its octets. -/
theorem CutsName.hasCompletion (cuts : CutsName input begun missing)
    (sized : behind.length = missing) {name : String}
    (isText : Utf8.decode? (begun ++ behind) = some name) :
    HasCompletion Attribute.encode Attribute.IsCanonical (input ++ behind) := by
  obtain ⟨tag, length, canonical, rfl, lengthSays, _, _⟩ := cuts
  have octets := Utf8.encode_of_decode? isText
  have nameSized : (Utf8.encode name).length = length.toNat := by
    rw [octets, List.length_append]
    omega
  have nameSpelled := spells_of_length nameSized name [0, 0]
  have emptyValue : Spells (encodeField name) [] [0, 0] [] :=
    spells_encodeField_iff.mpr ⟨Nat.zero_le _, by decide⟩
  have completion := hasCompletion_of_parts canonical nameSpelled emptyValue .nil
  rw [octets] at completion
  have withValue : HasCompletion Attribute.encode Attribute.IsCanonical
      (tag.code :: (Bytes.ofUInt16 length ++ begun) ++ behind ++ [0, 0]) := by
    simpa using completion
  exact withValue.of_append

/-- A name of no octets would have been announced as such. -/
theorem CutsName.not_continuesAttribute (cuts : CutsName input begun missing) (behind : Bytes) :
    ¬ ContinuesAttribute (input ++ behind) := by
  obtain ⟨tag, length, _, rfl, lengthSays, notEmpty, _⟩ := cuts
  rintro ⟨_, _, same, _⟩
  obtain ⟨high, low, written⟩ := ofUInt16_eq_pair length
  have readBack := Bytes.toUInt16_ofUInt16 length
  rw [written] at same readBack
  cases same
  have zero : length.toNat = 0 := by
    rw [← readBack]
    decide
  have some := List.length_pos_iff.mpr notEmpty
  omega

/-- A cut name is reported with the number of its octets, and of those that are there. -/
theorem CutsName.nextAttribute_eq_truncated (cuts : CutsName input begun missing) :
    nextAttribute input = some (.fault (.truncated (begun.length + missing) begun.length) begun) := by
  obtain ⟨tag, length, canonical, rfl, lengthSays, _, positive⟩ := cuts
  have noDelimiter := isDelimiterCode_of_isCanonical canonical
  have known := ValueTag.ofCode?_eq_some_iff.mpr ⟨rfl, canonical⟩
  have lengthFound : readUInt16 (Bytes.ofUInt16 length ++ begun) = .ok length begun :=
    readUInt16_eq_ok_iff.mpr rfl
  have tooFew : (begun.take length.toNat).length ≠ length.toNat := by
    rw [List.length_take]
    omega
  have whole : begun.take length.toNat = begun := List.take_of_length_le (by omega)
  have octetsFailed : readOctets length.toNat begun =
      .fault (.truncated (begun.length + missing) begun.length) begun := by
    rw [readOctets, if_neg tooFew, whole, lengthSays]
  rw [nextAttribute_cons, noDelimiter, if_neg Bool.false_ne_true, readAttribute_cons known, readName,
    readField, lengthFound]
  simp only [Read.andThen, octetsFailed]

/-- A cut name is refused as soon as it is whole, if it spells no text. -/
theorem CutsName.nextAttribute_eq_invalidName (cuts : CutsName input begun missing)
    (sized : behind.length = missing) (noText : Utf8.decode? (begun ++ behind) = none) :
    nextAttribute (input ++ behind) = some (.fault (.invalidName (begun ++ behind)) []) := by
  obtain ⟨tag, length, canonical, rfl, lengthSays, _, _⟩ := cuts
  have nameSized : (begun ++ behind).length = length.toNat := by
    rw [List.length_append]
    omega
  have nameSpelled := spells_of_length nameSized "" []
  rw [List.append_nil] at nameSpelled
  refine (nextAttribute_eq_fault_iff (WireFault.not_isTruncation_invalidName _)).mpr
    ⟨tag.code, Bytes.ofUInt16 length ++ (begun ++ behind), begun ++ behind, ?_,
      isDelimiterCode_of_isCanonical canonical, (readField_eq_ok_iff "").mpr nameSpelled, noText, rfl⟩
  simp

/-- Groups are read up to an attribute that fails in the last one. -/
theorem breaksOff_of_open_group {groups : List AttributeGroup} {group : AttributeGroup}
    {unit : Bytes} (readable : ∀ each ∈ groups ++ [group], each.Readable)
    (spelled : Spells (encodeAll AttributeGroup.encode) (groups ++ [group]) input unit)
    (ends : ¬ ContinuesAttribute unit) (fails : nextAttribute unit = some (.fault cause rest)) :
    Read.BreaksOff nextGroup input cause rest := by
  obtain ⟨groupsReadable, lastReadable⟩ := List.forall_mem_append.mp readable
  have isReadable := lastReadable group List.mem_cons_self
  rw [← spells_map_absorbed_iff, List.map_append, List.map_singleton] at spelled
  obtain ⟨middle, groupsSpelled, lastSpelled⟩ := spells_encodeAll_append_iff.mp spelled
  obtain ⟨_, groupSpelled, nothing⟩ := spells_encodeAll_cons_iff.mp lastSpelled
  rw [spells_encodeAll_nil_iff.mp nothing] at groupSpelled
  refine Read.breaksOff_iff.mpr ⟨groups.map AttributeGroup.absorbed, middle, ?_, ?_⟩
  · refine passes_nextGroup_iff.mpr
      ⟨?_, groupsSpelled, fun _ => beginsWithDelimiter_of_spells groupSpelled⟩
    intro absorbed member
    obtain ⟨before, isBefore, rfl⟩ := List.mem_map.mp member
    have sound := groupsReadable before isBefore
    rw [AttributeGroup.tag_absorbed]
    exact ⟨sound.noEnd, sound.wellFormed_absorbed⟩
  · obtain ⟨afterTag, rfl, attrsSpelled⟩ := spells_group_iff.mp groupSpelled
    have wellFormed := isReadable.wellFormed_absorbed
    have passes := passes_nextAttribute_iff.mpr
      ⟨⟨wellFormed.onlyFirstNameless, wellFormed.canonicalTags⟩, attrsSpelled, fun _ => ends⟩
    rw [AttributeGroup.tag_absorbed]
    refine nextGroup_cons_eq_fault_iff.mpr ⟨?_, .inr ⟨?_, ?_⟩⟩
    · exact fun isEnd => isReadable.noEnd (code_eq_endOfAttributes_iff.mp isEnd)
    · simp [DelimiterTag.ofCode?_code]
    · exact Read.breaksOff_iff.mpr ⟨_, unit, passes, fails⟩

/-- What ends within a name is reported as truncated, with the numbers of the name. -/
theorem decode_eq_truncated_of_endsInName {octets : Bytes}
    (ends : EndsInName octets begun missing) :
    Message.decode octets = .error (.truncated (begun.length + missing) begun.length) := by
  obtain ⟨header, groups, group, afterHeader, unit, rfl, readable, spelled, cuts⟩ := ends
  have notContinued := cuts.not_continuesAttribute []
  rw [List.append_nil] at notContinued
  have breaks :=
    breaksOff_of_open_group readable spelled notContinued cuts.nextAttribute_eq_truncated
  exact decode_eq_error_iff_header_or_group.mpr (.inr ⟨header, afterHeader, begun, rfl, breaks⟩)

/-- With the octets that are missing, a cut name is refused if it spells no text, and otherwise
what ends in it can be completed. -/
theorem decode_of_endsInName {octets : Bytes} (ends : EndsInName octets begun missing)
    (sized : behind.length = missing) :
    match Utf8.decode? (begun ++ behind) with
    | some _ => ∃ more message, Message.decode (octets ++ behind ++ more) = .ok message
    | none => Message.decode (octets ++ behind) = .error (.invalidName (begun ++ behind)) := by
  obtain ⟨header, groups, group, afterHeader, unit, rfl, readable, spelled, cuts⟩ := ends
  have behindSpelled : Spells (encodeAll AttributeGroup.encode) (groups ++ [group])
      (afterHeader ++ behind) (unit ++ behind) :=
    spells_append_more_iff.mpr spelled
  rw [List.append_assoc]
  split
  · next name isText =>
      exact exists_decode_of_hasCompletion header
        (hasCompletion_of_open_group readable behindSpelled (cuts.hasCompletion sized isText))
  · next noText =>
      have breaks := breaksOff_of_open_group readable behindSpelled
        (cuts.not_continuesAttribute behind) (cuts.nextAttribute_eq_invalidName sized noText)
      exact (decode_eq_error_iff (WireFault.not_isTruncation_invalidName _)).mpr
        ⟨header, afterHeader ++ behind, [], rfl, breaks⟩

end Wire

namespace Message

/-- What is reported as truncated can be completed to a message, unless it ends within the name of
an attribute: then it can be completed exactly if the name can be completed to a text, and with any
other octets it is refused for its name.  No tag in it is at fault. -/
theorem decode_truncated_completes {octets : Bytes} {needed remaining : Nat}
    (truncated : decode octets = .error (.truncated needed remaining)) :
    ((∀ begun missing, ¬ Wire.EndsInName octets begun missing) →
      ∃ more message, decode (octets ++ more) = .ok message) ∧
    (∀ begun missing, Wire.EndsInName octets begun missing → ∀ behind, behind.length = missing →
      match Utf8.decode? (begun ++ behind) with
      | some _ => ∃ more message, decode (octets ++ behind ++ more) = .ok message
      | none => decode (octets ++ behind) = .error (.invalidName (begun ++ behind))) ∧
    ∀ front code, front <+: octets → decode front ≠ .error (.unrecognizedTag code) := by
  refine ⟨?completed, ?named, ?recognized⟩
  case completed =>
    intro notInName
    rcases Wire.exists_decode_or_endsInName ⟨needed, remaining, rfl⟩ truncated with
      completed | ⟨begun, missing, inName⟩
    · exact completed
    · exact absurd inName (notInName begun missing)
  case named =>
    intro begun missing inName behind sized
    exact Wire.decode_of_endsInName inName sized
  case recognized =>
    intro front code isFront failed
    obtain ⟨more, rfl⟩ := isFront
    have settled := WireFault.not_isTruncation_unrecognizedTag code
    rw [Wire.decode_append_of_error settled failed more] at truncated
    cases truncated

/-- A job's attributes up to the first octet of a name of two. -/
def cutOctets : Bytes := [2, 0, 0, 2, 0, 0, 0, 1, 0x02, 0x44, 0, 2, 0xc3]

theorem endsInName_cutOctets : Wire.EndsInName cutOctets [0xc3] 1 := by
  refine ⟨⟨.v2_0, 0x0002, 1⟩, [], ⟨.jobAttributes, []⟩, _, [0x44, 0, 2, 0xc3], rfl, ?_, ?_, ?_⟩
  · intro group member
    cases List.mem_singleton.mp member
    exact ⟨by decide, by simp⟩
  · exact ⟨[0x02], rfl, rfl⟩
  · exact ⟨.keyword, 2, by decide, by decide, by decide, by decide, by decide⟩

/-- What ends within its header can be completed.  What ends within a name can be completed if the
next octet completes the character, and is refused for its name otherwise. -/
theorem decode_truncated_completes_cut :
    (∃ more message, decode ([2, 0, 0] ++ more) = .ok message) ∧
      (∃ more message, decode (cutOctets ++ [0xa9] ++ more) = .ok message) ∧
      decode (cutOctets ++ [0x41]) = .error (.invalidName [0xc3, 0x41]) := by
  have headerCut : decode [2, 0, 0] = .error (.truncated 8 3) := rfl
  have nameCut : decode cutOctets = .error (.truncated 2 1) :=
    Wire.decode_eq_truncated_of_endsInName endsInName_cutOctets
  have notInName : ∀ begun missing, ¬ Wire.EndsInName [2, 0, 0] begun missing := by
    rintro begun missing ⟨header, _, _, afterHeader, _, same, _⟩
    have sizes := congrArg List.length same
    simp only [Header.toBytes, List.length_append, Bytes.length_ofUInt16, Bytes.length_ofInt32,
      List.length_cons, List.length_nil] at sizes
    omega
  have isText : Utf8.decode? ([0xc3] ++ [0xa9]) = some "é" := Utf8.decode?_encode "é"
  have noText : Utf8.decode? ([0xc3] ++ [0x41]) = none := by decide +kernel
  have completed := (decode_truncated_completes nameCut).2.1 [0xc3] 1 endsInName_cutOctets
  have accepted := completed [0xa9] rfl
  have refused := completed [0x41] rfl
  rw [isText] at accepted
  rw [noText] at refused
  exact ⟨(decode_truncated_completes headerCut).1 notInName, accepted, refused⟩

end Message

end PrintProxy
