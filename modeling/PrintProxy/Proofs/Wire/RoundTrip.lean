import PrintProxy.Proofs.Wire.Exactness

/-!
# Round trips

Decoding and then encoding gives back every octet.  Encoding and then decoding
gives back the message exactly if the message is well-formed.  Attributes and
groups have the same laws in front of other octets: an attribute is read up to
the first octets that do not go on with it, a group up to a delimiter.
-/

namespace PrintProxy.Message

open Wire

/-- A decoded message is encoded to the octets it came from, and it comes from no others. -/
theorem decode_byteExact {octets : Bytes} {message : Message}
    (decoded : decode octets = .ok message) :
    message.encode = .ok octets ∧
      ∀ other, decode other = .ok message → other = octets := by
  have encoded := (decode_eq_ok_iff.mp decoded).2
  refine ⟨encoded, ?_⟩
  intro other otherDecoded
  have otherEncoded := (decode_eq_ok_iff.mp otherDecoded).2
  rw [encoded] at otherEncoded
  exact (Except.ok.inj otherEncoded).symm

/-- A nameless attribute in front, further values, an empty group, an unassigned tag and octets that
look like end tags in a value and in the payload. -/
def scattered : Message :=
  { header := ⟨.v2_0, 0x0002, -2⟩
    attributes :=
      ⟨[⟨.operationAttributes,
          [⟨"", ⟨.charset, [0x03]⟩, []⟩,
            ⟨"ra", ⟨.keyword, [0x61]⟩, [⟨.keyword, [0x62]⟩, ⟨.outOfBand 0x14, []⟩]⟩]⟩,
        ⟨.jobAttributes, []⟩,
        ⟨.systemAttributes, [⟨"é", ⟨.reserved 0x7f, []⟩, []⟩]⟩]⟩
    payload := [0x03, 0x44] }

/-- The octets of `scattered`. -/
def scatteredOctets : Bytes :=
  [2, 0, 0, 2, 0xff, 0xff, 0xff, 0xfe,
    0x01, 0x47, 0, 0, 0, 1, 0x03,
    0x44, 0, 2, 0x72, 0x61, 0, 1, 0x61, 0x44, 0, 0, 0, 1, 0x62, 0x14, 0, 0, 0, 0,
    0x02,
    0x0a, 0x7f, 0, 2, 0xc3, 0xa9, 0, 0,
    0x03, 0x03, 0x44]

theorem decode_scattered : decode scatteredOctets = .ok scattered :=
  decode_eq_ok_iff.mpr ⟨by decide, rfl⟩

theorem decode_byteExact_scattered :
    decode scatteredOctets = .ok scattered ∧ scattered.encode = .ok scatteredOctets ∧
      ∀ other, decode other = .ok scattered → other = scatteredOctets :=
  ⟨decode_scattered, decode_byteExact decode_scattered⟩

/-- What is encoded is decoded to itself exactly if it is well-formed; nothing else is ever
decoded. -/
theorem decode_encode_iff {message : Message} {octets : Bytes}
    (encoded : message.encode = .ok octets) :
    (decode octets = .ok message ↔ message.attributes.WellFormed) ∧
      ∀ input decoded, decode input = .ok decoded → decoded.attributes.WellFormed := by
  constructor
  · constructor
    · intro decoded
      exact (decode_eq_ok_iff.mp decoded).1
    · intro wellFormed
      exact decode_eq_ok_iff.mpr ⟨wellFormed, encoded⟩
  · intro input decoded found
    exact (decode_eq_ok_iff.mp found).1

/-- A nameless attribute behind another one, under the tag of a group that ends the list, and with a
tag that is not canonical. -/
def misread : Message :=
  { header := ⟨.v1_1, 0x000a, 7⟩
    attributes :=
      ⟨[⟨.jobAttributes,
          [⟨"k", ⟨.keyword, [0x76]⟩, []⟩, ⟨"", ⟨.integer, [0, 0, 0, 1]⟩, []⟩]⟩,
        ⟨.endOfAttributes, [⟨"a", ⟨.reserved 0x21, []⟩, []⟩]⟩]⟩
    payload := [] }

theorem decode_encode_iff_misread :
    ∃ octets, misread.encode = .ok octets ∧ ¬ misread.attributes.WellFormed ∧
      decode octets ≠ .ok misread := by
  have malformed : ¬ misread.attributes.WellFormed := by decide
  refine ⟨_, rfl, malformed, ?_⟩
  intro decoded
  exact malformed ((decode_encode_iff rfl).1.mp decoded)

end PrintProxy.Message

namespace PrintProxy.Wire

theorem isDelimiterCode_eq_true_iff {code : UInt8} :
    DelimiterTag.isDelimiterCode code = true ↔ code ≤ 0x0f :=
  decide_eq_true_iff

theorem isDelimiterCode_eq_false_iff {code : UInt8} :
    DelimiterTag.isDelimiterCode code = false ↔ 0x10 ≤ code := by
  rw [← Bool.not_eq_true, isDelimiterCode_eq_true_iff, UInt8.not_le, UInt8.lt_iff_toNat_lt,
    UInt8.le_iff_toNat_le]
  exact Iff.rfl

theorem continuesAttribute_iff_exists_unit {input : Bytes} :
    ContinuesAttribute input ↔
      ∃ code behind, 0x10 ≤ code ∧ input = code :: 0 :: 0 :: behind := by
  simp only [ContinuesAttribute, isDelimiterCode_eq_false_iff, and_comm]

theorem beginsWithDelimiter_iff_exists_octet {input : Bytes} :
    BeginsWithDelimiter input ↔ ∃ code behind, code ≤ 0x0f ∧ input = code :: behind := by
  simp only [BeginsWithDelimiter, isDelimiterCode_eq_true_iff, and_comm]

/-- An attribute with canonical tags is read exactly where its octets stand and the rest does not
begin with one more value, that is, with an octet of at least 0x10 and an empty name.  A well-formed
group is read exactly where its octets stand and the rest begins with an octet of at most 0x0f.
Nothing else is ever read. -/
theorem read_leaves_rest_iff (input rest : Bytes) :
    (∀ attr, readAttribute input = .ok attr rest ↔
      attr.IsCanonical ∧
      (∃ octets, attr.encode = .ok octets ∧ input = octets ++ rest) ∧
      ¬∃ code behind, 0x10 ≤ code ∧ rest = code :: 0 :: 0 :: behind) ∧
    ∀ group, readGroup input = .ok group rest ↔
      group.WellFormed ∧
      (∃ octets, group.encode = .ok octets ∧ input = octets ++ rest) ∧
      ∃ code behind, code ≤ 0x0f ∧ rest = code :: behind := by
  constructor
  · intro attr
    rw [readAttribute_eq_ok_iff, continuesAttribute_iff_exists_unit, Spells]
  · intro group
    rw [readGroup_eq_ok_iff, beginsWithDelimiter_iff_exists_octet, Spells]

/-- A further value is taken, and two octets that could begin another one are left. -/
example : readAttribute [0x44, 0, 1, 0x61, 0, 1, 0x78, 0x44, 0, 0, 0, 1, 0x79, 0x44, 0] =
    .ok ⟨"a", ⟨.keyword, [0x78]⟩, [⟨.keyword, [0x79]⟩]⟩ [0x44, 0] := by
  cbv

end PrintProxy.Wire
