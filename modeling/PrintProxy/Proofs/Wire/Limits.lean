import Mathlib.Algebra.GroupWithZero.Nat
import PrintProxy.Proofs.Wire.Spelling

/-!
# The limits of encoding

The fields of a message are the names and the values of its attributes, in wire
order.  A message has octets exactly if each of them fits its length field;
these are then as many as the parts of the message ask for, and every field
stands in them behind its own length.  Otherwise the fault is that of the first
field that does not fit.

Encoding joins the octets of parts, so `Writes` says this of any outcome of
encoding and is kept where two outcomes are joined.
-/

namespace PrintProxy

namespace Wire

/-- Octets that are written behind their number, in the attribute with the given name. -/
structure Field where
  holder : String
  octets : Bytes
deriving DecidableEq, Repr

/-- The length field can say how long the field is. -/
def Field.Fits (field : Field) : Prop := field.octets.length ≤ greatestFieldLength

instance (field : Field) : Decidable field.Fits :=
  inferInstanceAs (Decidable (_ ≤ _))

/-- The fields stand in the octets in their order, each behind two octets that say its length. -/
def Announces : List Field → Bytes → Prop
  | [], _ => True
  | field :: fields, octets =>
      ∃ before length behind, octets = before ++ length ++ field.octets ++ behind ∧
        length.length = 2 ∧ Bytes.toNat length = field.octets.length ∧ Announces fields behind

end Wire

open Wire

/-- Name and values of an attribute, in wire order. -/
def Attribute.fields (attr : Attribute) : List Field :=
  ⟨attr.name, Utf8.encode attr.name⟩ :: attr.tagged.map fun tagged => ⟨attr.name, tagged.octets⟩

def AttributeGroup.fields (group : AttributeGroup) : List Field :=
  group.attributes.flatMap Attribute.fields

/-- All fields of a message, in wire order. -/
def Message.fields (message : Message) : List Field :=
  message.attributes.groups.flatMap AttributeGroup.fields

/-- The number of octets of an attribute: five for the tag and the lengths, five for the tag and
the lengths of each further value, and the fields. -/
def Attribute.encodedLength (attr : Attribute) : Nat :=
  5 + (Utf8.encode attr.name).length + attr.first.octets.length +
    (attr.more.map fun tagged => 5 + tagged.octets.length).sum

def AttributeGroup.encodedLength (group : AttributeGroup) : Nat :=
  1 + (group.attributes.map Attribute.encodedLength).sum

/-- The number of octets of a message: eight for the header, one for the end tag, and those of the
payload and of the groups. -/
def Message.encodedLength (message : Message) : Nat :=
  9 + message.payload.length + (message.attributes.groups.map AttributeGroup.encodedLength).sum

namespace Wire

variable {α : Type} {fields fields' : List Field} {length length' : Nat}
  {outcome outcome' : Except WireFault Bytes}

/-- The octets of two parts; the first fault ends the work. -/
def joined (first second : Except WireFault Bytes) : Except WireFault Bytes := do
  let front ← first
  let back ← second
  return front ++ back

theorem encodeAll_cons (encode : α → Except WireFault Bytes) (item : α) (items : List α) :
    encodeAll encode (item :: items) = joined (encode item) (encodeAll encode items) := by
  rw [encodeAll, List.mapM_cons]
  cases encode item with
  | error fault => rfl
  | ok front =>
      rw [encodeAll]
      cases items.mapM encode <;> rfl

theorem encodeAdditional_eq (name : String) (tagged : TaggedValue) :
    encodeAdditional name tagged =
      joined (.ok [tagged.tag.code, 0, 0]) (encodeField name tagged.octets) :=
  rfl

theorem encode_attribute_eq (attr : Attribute) :
    attr.encode =
      joined (joined (joined (.ok [attr.first.tag.code])
            (encodeField attr.name (Utf8.encode attr.name)))
          (encodeField attr.name attr.first.octets))
        (encodeAll (encodeAdditional attr.name) attr.more) := by
  rw [Attribute.encode]
  cases encodeField attr.name (Utf8.encode attr.name) with
  | error fault => rfl
  | ok name => cases encodeField attr.name attr.first.octets <;> rfl

theorem encode_message_eq (message : Message) :
    message.encode =
      joined (joined (.ok message.header.toBytes)
          (joined (encodeAll AttributeGroup.encode message.attributes.groups)
            (.ok [DelimiterTag.endOfAttributes.code])))
        (.ok message.payload) := by
  rw [Message.encode, Attributes.encode]
  cases encodeAll AttributeGroup.encode message.attributes.groups <;> rfl

theorem announces_append_left (octets : Bytes) {behind : Bytes}
    (announces : Announces fields behind) : Announces fields (octets ++ behind) := by
  cases fields with
  | nil => trivial
  | cons field fields =>
      obtain ⟨before, length, rest, rfl, twoOctets, announced, others⟩ := announces
      refine ⟨octets ++ before, length, rest, ?_, twoOctets, announced, others⟩
      simp only [List.append_assoc]

theorem Announces.append {octets octets' : Bytes} (first : Announces fields octets)
    (second : Announces fields' octets') : Announces (fields ++ fields') (octets ++ octets') := by
  induction fields generalizing octets with
  | nil => exact announces_append_left octets second
  | cons field fields ih =>
      obtain ⟨before, length, rest, rfl, twoOctets, announced, others⟩ := first
      refine ⟨before, length, rest ++ octets', ?_, twoOctets, announced, ih others⟩
      simp only [List.append_assoc]

/-- The first field that does not fit is the fault of an outcome, which otherwise has so many
octets that hold all fields. -/
structure Writes (outcome : Except WireFault Bytes) (fields : List Field) (length : Nat) :
    Prop where
  refused : ∀ field, fields.find? (fun field => ¬field.Fits) = some field →
    outcome = .error (.valueTooLong field.holder field.octets.length)
  written : fields.find? (fun field => ¬field.Fits) = none →
    ∃ octets, outcome = .ok octets ∧ octets.length = length ∧ Announces fields octets

theorem writes_ok (octets : Bytes) : Writes (.ok octets) [] octets.length where
  refused _ found := by cases found
  written _ := ⟨octets, rfl, rfl, trivial⟩

theorem toNat_ofUInt16_length {octets : Bytes} (fits : octets.length ≤ greatestFieldLength) :
    Bytes.toNat (Bytes.ofUInt16 (UInt16.ofNat octets.length)) = octets.length := by
  rw [greatestFieldLength] at fits
  rw [Bytes.ofUInt16, Bytes.toNat_ofNat, UInt16.toNat_ofNat']
  simp only [Bytes.capacity]
  omega

theorem writes_encodeField (name : String) (octets : Bytes) :
    Writes (encodeField name octets) [⟨name, octets⟩] (2 + octets.length) := by
  by_cases fits : octets.length ≤ greatestFieldLength
  · constructor
    · intro field found
      simp [Field.Fits, fits] at found
    · intro _
      refine ⟨_, if_pos fits, by simp, [], _, [], ?_, Bytes.length_ofUInt16 _,
        toNat_ofUInt16_length fits, trivial⟩
      rw [List.nil_append, List.append_nil]
  · constructor
    · intro field found
      simp only [Field.Fits, fits, List.find?_cons] at found
      cases found
      exact if_neg fits
    · intro found
      simp [Field.Fits, fits] at found

theorem Writes.joined (first : Writes outcome fields length)
    (second : Writes outcome' fields' length') :
    Writes (joined outcome outcome') (fields ++ fields') (length + length') := by
  constructor
  · intro field found
    rw [List.find?_append] at found
    cases search : fields.find? (fun field => ¬field.Fits) with
    | some early =>
        rw [search] at found
        cases found
        rw [first.refused _ search]
        rfl
    | none =>
        rw [search, Option.none_or] at found
        obtain ⟨octets, written, _⟩ := first.written search
        rw [written, second.refused _ found]
        rfl
  · intro allFit
    rw [List.find?_append, Option.or_eq_none_iff] at allFit
    obtain ⟨octets, written, rfl, announces⟩ := first.written allFit.1
    obtain ⟨octets', written', rfl, announces'⟩ := second.written allFit.2
    rw [written, written']
    exact ⟨octets ++ octets', rfl, List.length_append, announces.append announces'⟩

theorem writes_encodeAll {encode : α → Except WireFault Bytes} {fieldsOf : α → List Field}
    {lengthOf : α → Nat} (each : ∀ item, Writes (encode item) (fieldsOf item) (lengthOf item))
    (items : List α) :
    Writes (encodeAll encode items) (items.flatMap fieldsOf) (items.map lengthOf).sum := by
  induction items with
  | nil => exact writes_ok []
  | cons item items ih =>
      rw [encodeAll_cons, List.flatMap_cons, List.map_cons, List.sum_cons]
      exact (each item).joined ih

theorem writes_encodeAdditional (name : String) (tagged : TaggedValue) :
    Writes (encodeAdditional name tagged) [⟨name, tagged.octets⟩] (5 + tagged.octets.length) := by
  have sameLength : 5 + tagged.octets.length =
      [tagged.tag.code, 0, 0].length + (2 + tagged.octets.length) := by
    simp only [List.length_cons, List.length_nil]
    omega
  rw [encodeAdditional_eq, sameLength]
  exact (writes_ok _).joined (writes_encodeField name tagged.octets)

theorem writes_encode_attribute (attr : Attribute) :
    Writes attr.encode attr.fields attr.encodedLength := by
  have more := writes_encodeAll (writes_encodeAdditional attr.name) attr.more
  rw [← List.map_eq_flatMap] at more
  have sameLength : attr.encodedLength = [attr.first.tag.code].length +
      (2 + (Utf8.encode attr.name).length) + (2 + attr.first.octets.length) +
        (attr.more.map fun tagged => 5 + tagged.octets.length).sum := by
    simp only [Attribute.encodedLength, List.length_singleton]
    omega
  have name := (writes_ok [attr.first.tag.code]).joined
    (writes_encodeField attr.name (Utf8.encode attr.name))
  have value := name.joined (writes_encodeField attr.name attr.first.octets)
  rw [encode_attribute_eq, sameLength]
  exact value.joined more

theorem writes_encode_group (group : AttributeGroup) :
    Writes group.encode group.fields group.encodedLength :=
  (writes_ok [group.tag.code]).joined (writes_encodeAll writes_encode_attribute group.attributes)

theorem writes_encode_message (message : Message) :
    Writes message.encode message.fields message.encodedLength := by
  have groups := writes_encodeAll writes_encode_group message.attributes.groups
  have attributes := groups.joined (writes_ok [DelimiterTag.endOfAttributes.code])
  have whole :=
    ((writes_ok message.header.toBytes).joined attributes).joined (writes_ok message.payload)
  have sameLength : message.encodedLength = message.header.toBytes.length +
      ((message.attributes.groups.map AttributeGroup.encodedLength).sum +
        [DelimiterTag.endOfAttributes.code].length) + message.payload.length := by
    simp only [Message.encodedLength, Header.toBytes, List.length_append, List.length_cons,
      List.length_nil, Bytes.length_ofUInt16, Bytes.length_ofInt32]
    omega
  rw [encode_message_eq, sameLength]
  simp only [List.nil_append, List.append_nil] at whole
  exact whole

theorem find?_not_fits_eq_none_iff :
    fields.find? (fun field => ¬field.Fits) = none ↔ ∀ field ∈ fields, field.Fits := by
  simp

theorem find?_not_fits_eq_some_iff {field : Field} :
    fields.find? (fun field => ¬field.Fits) = some field ↔
      ∃ before behind, fields = before ++ field :: behind ∧
        (∀ earlier ∈ before, earlier.Fits) ∧ ¬field.Fits := by
  rw [List.find?_eq_some_iff_append]
  constructor
  · rintro ⟨tooLong, before, behind, place, earlierFit⟩
    exact ⟨before, behind, place, by simpa using earlierFit, by simpa using tooLong⟩
  · rintro ⟨before, behind, place, earlierFit, tooLong⟩
    exact ⟨by simpa using tooLong, before, behind, place, by simpa using earlierFit⟩

namespace Writes

variable {octets : Bytes} {fault : WireFault} (writes : Writes outcome fields length)

include writes

theorem exists_ok_iff : (∃ octets, outcome = .ok octets) ↔ ∀ field ∈ fields, field.Fits := by
  rw [← find?_not_fits_eq_none_iff]
  cases search : fields.find? (fun field => ¬field.Fits) with
  | none =>
      obtain ⟨octets, written, _⟩ := writes.written search
      exact iff_of_true ⟨octets, written⟩ rfl
  | some field =>
      rw [writes.refused field search]
      exact iff_of_false nofun nofun

theorem of_ok (encoded : outcome = .ok octets) :
    octets.length = length ∧ Announces fields octets := by
  have allFit := writes.exists_ok_iff.mp ⟨octets, encoded⟩
  obtain ⟨_, written, shape⟩ := writes.written (find?_not_fits_eq_none_iff.mpr allFit)
  cases encoded.symm.trans written
  exact shape

theorem eq_error_iff :
    outcome = .error fault ↔ ∃ before field behind, fields = before ++ field :: behind ∧
      (∀ earlier ∈ before, earlier.Fits) ∧ ¬field.Fits ∧
        fault = .valueTooLong field.holder field.octets.length := by
  constructor
  · intro failed
    cases search : fields.find? (fun field => ¬field.Fits) with
    | none =>
        obtain ⟨_, written, _⟩ := writes.written search
        cases failed.symm.trans written
    | some field =>
        obtain ⟨before, behind, place, earlierFit, tooLong⟩ := find?_not_fits_eq_some_iff.mp search
        refine ⟨before, field, behind, place, earlierFit, tooLong, ?_⟩
        exact Except.error.inj (failed.symm.trans (writes.refused field search))
  · rintro ⟨before, field, behind, place, earlierFit, tooLong, rfl⟩
    exact writes.refused field
      (find?_not_fits_eq_some_iff.mpr ⟨before, behind, place, earlierFit, tooLong⟩)

end Writes

end Wire

namespace Message

/-- A message has octets exactly if each of its fields fits its length field; they are as many as
its parts ask for, and the fields stand in them behind their lengths.  Otherwise the first field
that does not fit is reported with its length and the attribute that holds it. -/
theorem encode_limits (message : Message) :
    ((∃ octets, message.encode = .ok octets) ↔ ∀ field ∈ message.fields, field.Fits) ∧
    (∀ octets, message.encode = .ok octets →
      octets.length = message.encodedLength ∧ Announces message.fields octets) ∧
    ∀ fault, message.encode = .error fault ↔
      ∃ before field behind, message.fields = before ++ field :: behind ∧
        (∀ earlier ∈ before, earlier.Fits) ∧ ¬field.Fits ∧
          fault = .valueTooLong field.holder field.octets.length := by
  have writes := writes_encode_message message
  exact ⟨writes.exists_ok_iff, fun _ encoded => writes.of_ok encoded, fun _ => writes.eq_error_iff⟩

/-- Two job attributes; the same octets are a further value of one and the value of the other. -/
def repeating (octets : Bytes) : Message :=
  { header := ⟨.v2_0, 0x0002, 1⟩
    attributes :=
      ⟨[⟨.jobAttributes,
        [⟨"a", ⟨.keyword, []⟩, [⟨.keyword, octets⟩]⟩, ⟨"b", ⟨.keyword, octets⟩, []⟩]⟩]⟩
    payload := [] }

/-- Of octets that are one too many, those in the attribute in front are reported. -/
theorem encode_limits_repeating :
    (repeating (List.replicate 65536 0)).encode = .error (.valueTooLong "a" 65536) ∧
      ∃ octets, (repeating [7]).encode = .ok octets ∧ octets.length = 29 := by
  constructor
  · obtain ⟨_, _, refused⟩ := encode_limits (repeating (List.replicate 65536 0))
    refine (refused _).mpr ⟨[⟨"a", Utf8.encode "a"⟩, ⟨"a", []⟩], ⟨"a", List.replicate 65536 0⟩,
      [⟨"b", Utf8.encode "b"⟩, ⟨"b", List.replicate 65536 0⟩], rfl, by decide, ?_, ?_⟩
    · rw [Field.Fits, List.length_replicate]
      decide
    · rw [List.length_replicate]
  · obtain ⟨written, shape, _⟩ := encode_limits (repeating [7])
    obtain ⟨octets, encoded⟩ := written.mpr (by decide)
    exact ⟨octets, encoded, (shape octets encoded).1⟩

end Message

end PrintProxy
