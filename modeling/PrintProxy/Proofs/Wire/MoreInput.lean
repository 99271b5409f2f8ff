import PrintProxy.Proofs.Wire.RoundTrip

/-!
# Decoding is stable under more input

A decision that decoding has made about some octets is not revised when more
octets follow.  The only open outcome is a truncation.  What makes this
delicate is the look ahead behind a value: with fewer than three octets left it
sees nothing and the attribute ends there, although more octets might have
continued it.  Such an end is never followed by a decision, unless the octet
left is a delimiter.
-/

namespace PrintProxy

/-- The input ended too early, so more input may change the outcome. -/
def WireFault.IsTruncation (cause : WireFault) : Prop :=
  ∃ needed remaining, cause = .truncated needed remaining

theorem WireFault.not_isTruncation_unrecognizedTag (code : UInt8) :
    ¬(unrecognizedTag code).IsTruncation := by
  intro truncation
  obtain ⟨_, _, impossible⟩ := truncation
  cases impossible

theorem WireFault.not_isTruncation_invalidName (octets : Bytes) :
    ¬(invalidName octets).IsTruncation := by
  intro truncation
  obtain ⟨_, _, impossible⟩ := truncation
  cases impossible

namespace Wire

theorem isTruncation_of_readField {input rest : Bytes} {cause : WireFault}
    (failed : readField input = .fault cause rest) : cause.IsTruncation := by
  rcases Read.andThen_eq_fault.mp failed with lengthFailed | ⟨number, middle, _, octetsFailed⟩
  · unfold readUInt16 at lengthFailed
    split at lengthFailed
    · cases lengthFailed
    · cases lengthFailed
      exact ⟨_, _, rfl⟩
  · simp only [readOctets] at octetsFailed
    split at octetsFailed
    · cases octetsFailed
    · cases octetsFailed
      exact ⟨_, _, rfl⟩

/-- Apart from truncations, a name fails because all its octets are there and are no text. -/
theorem readName_eq_fault_iff {input rest : Bytes} {cause : WireFault}
    (settled : ¬ cause.IsTruncation) :
    readName input = .fault cause rest ↔
      ∃ octets, readField input = .ok octets rest ∧ Utf8.decode? octets = none ∧
        cause = .invalidName octets := by
  rw [readName, Read.andThen_eq_fault]
  constructor
  · intro failed
    rcases failed with fieldFailed | ⟨octets, middle, fieldFound, decodeFailed⟩
    · exact absurd (isTruncation_of_readField fieldFailed) settled
    · split at decodeFailed
      · cases decodeFailed
      · rename_i noText
        cases decodeFailed
        exact ⟨octets, fieldFound, noText, rfl⟩
  · intro parts
    obtain ⟨octets, fieldFound, noText, rfl⟩ := parts
    refine .inr ⟨octets, rest, fieldFound, ?_⟩
    rw [noText]

theorem isTruncation_of_readHeader {input rest : Bytes} {cause : WireFault}
    (failed : readHeader input = .fault cause rest) : cause.IsTruncation := by
  unfold readHeader at failed
  split at failed
  · cases failed
  · cases failed
    exact ⟨_, _, rfl⟩

theorem isTruncation_of_breaksOff_nextAdditional {input rest : Bytes} {cause : WireFault}
    (breaks : Read.BreaksOff nextAdditional input cause rest) : cause.IsTruncation := by
  induction breaks with
  | here step =>
      obtain ⟨code, middle, rfl⟩ := unit_of_nextAdditional step
      rw [nextAdditional_unit] at step
      obtain ⟨tag, _, failed⟩ := Option.map_eq_some_iff.mp step
      exact isTruncation_of_readField (Read.map_eq_fault.mp failed)
  | later _ _ ih => exact ih

theorem readAttribute_cons {code : UInt8} {tag : ValueTag}
    (known : ValueTag.ofCode? code = some tag) (afterTag : Bytes) :
    readAttribute (code :: afterTag) =
      (readName afterTag).andThen fun name rest =>
        (readField rest).andThen fun octets rest =>
          (Read.many nextAdditional nextAdditional_shrinks [] rest).map fun more =>
            ⟨name, ⟨tag, octets⟩, more⟩ := by
  simp only [readAttribute, readOctet, Read.andThen, known]

theorem exists_tag_of_noDelimiter {code : UInt8}
    (noDelimiter : DelimiterTag.isDelimiterCode code = false) :
    ∃ tag, ValueTag.ofCode? code = some tag := by
  apply Option.ne_none_iff_exists'.mp
  intro noTag
  rw [ValueTag.ofCode?_eq_none_iff.mp noTag] at noDelimiter
  cases noDelimiter

/-- Apart from truncations, an attribute fails because of its name. -/
theorem readAttribute_eq_fault_iff {code : UInt8} {afterTag rest : Bytes} {cause : WireFault}
    (noDelimiter : DelimiterTag.isDelimiterCode code = false) (settled : ¬ cause.IsTruncation) :
    readAttribute (code :: afterTag) = .fault cause rest ↔
      readName afterTag = .fault cause rest := by
  obtain ⟨tag, known⟩ := exists_tag_of_noDelimiter noDelimiter
  rw [readAttribute_cons known, Read.andThen_eq_fault]
  constructor
  · intro failed
    rcases failed with nameFailed | ⟨_, _, _, failed⟩
    · exact nameFailed
    · rcases Read.andThen_eq_fault.mp failed with valueFailed | ⟨_, _, _, failed⟩
      · exact absurd (isTruncation_of_readField valueFailed) settled
      · have breaks := Read.many_eq_fault_iff.mp (Read.map_eq_fault.mp failed)
        exact absurd (isTruncation_of_breaksOff_nextAdditional breaks) settled
  · exact .inl

theorem nextAttribute_eq_fault_iff {input rest : Bytes} {cause : WireFault}
    (settled : ¬ cause.IsTruncation) :
    nextAttribute input = some (.fault cause rest) ↔
      ∃ code afterTag octets, input = code :: afterTag ∧
        DelimiterTag.isDelimiterCode code = false ∧ readField afterTag = .ok octets rest ∧
        Utf8.decode? octets = none ∧ cause = .invalidName octets := by
  cases input with
  | nil =>
      constructor
      · intro step
        cases step
        exact absurd ⟨1, 0, rfl⟩ settled
      · intro parts
        obtain ⟨_, _, _, impossible, _⟩ := parts
        cases impossible
  | cons code afterTag =>
      rw [nextAttribute_cons]
      constructor
      · intro step
        split at step
        · cases step
        · rename_i notDelimiter
          have noDelimiter := Bool.eq_false_iff.mpr notDelimiter
          have nameFailed :=
            (readAttribute_eq_fault_iff noDelimiter settled).mp (Option.some.inj step)
          obtain ⟨octets, nameFails⟩ := (readName_eq_fault_iff settled).mp nameFailed
          exact ⟨code, afterTag, octets, rfl, noDelimiter, nameFails⟩
      · intro parts
        obtain ⟨_, _, octets, same, noDelimiter, nameFails⟩ := parts
        cases same
        have nameFailed := (readName_eq_fault_iff settled).mpr ⟨octets, nameFails⟩
        rw [(readAttribute_eq_fault_iff noDelimiter settled).mpr nameFailed]
        exact if_neg (by simp [noDelimiter])

/-- One more group fails because of its delimiter or of an attribute. -/
theorem nextGroup_cons_eq_fault_iff {code : UInt8} {afterTag rest : Bytes} {cause : WireFault} :
    nextGroup (code :: afterTag) = some (.fault cause rest) ↔
      code ≠ DelimiterTag.endOfAttributes.code ∧
        (DelimiterTag.ofCode? code = none ∧ cause = .unrecognizedTag code ∧ rest = afterTag ∨
          DelimiterTag.ofCode? code ≠ none ∧
            Read.BreaksOff nextAttribute afterTag cause rest) := by
  have groupFails : readGroup (code :: afterTag) = .fault cause rest ↔
      (DelimiterTag.ofCode? code = none ∧ cause = .unrecognizedTag code ∧ rest = afterTag ∨
        DelimiterTag.ofCode? code ≠ none ∧
          Read.BreaksOff nextAttribute afterTag cause rest) := by
    simp only [readGroup, readOctet, Read.andThen]
    cases known : DelimiterTag.ofCode? code with
    | none => simp [eq_comm]
    | some tag => simp [Read.map_eq_fault, Read.many_eq_fault_iff]
  rw [nextGroup_cons]
  constructor
  · intro step
    split at step
    · cases step
    · next noEnd => exact ⟨noEnd, groupFails.mp (Option.some.inj step)⟩
  · rintro ⟨noEnd, fails⟩
    rw [if_neg noEnd, groupFails.mpr fails]

/-- Apart from truncations, there is something to be read where one more group fails. -/
theorem nextGroup_eq_fault_iff {input rest : Bytes} {cause : WireFault}
    (settled : ¬ cause.IsTruncation) :
    nextGroup input = some (.fault cause rest) ↔
      ∃ code afterTag, input = code :: afterTag ∧
        code ≠ DelimiterTag.endOfAttributes.code ∧
        (DelimiterTag.ofCode? code = none ∧ cause = .unrecognizedTag code ∧ rest = afterTag ∨
          DelimiterTag.ofCode? code ≠ none ∧
            Read.BreaksOff nextAttribute afterTag cause rest) := by
  cases input with
  | nil =>
      constructor
      · intro step
        cases step
        exact absurd ⟨1, 0, rfl⟩ settled
      · intro parts
        obtain ⟨_, _, impossible, _⟩ := parts
        cases impossible
  | cons code afterTag =>
      rw [nextGroup_cons_eq_fault_iff]
      constructor
      · intro fails
        exact ⟨code, afterTag, rfl, fails⟩
      · intro parts
        obtain ⟨_, _, same, fails⟩ := parts
        cases same
        exact fails

/-- Decoding fails because of the header or because of a group. -/
theorem decode_eq_error_iff_header_or_group {octets : Bytes} {cause : WireFault} :
    Message.decode octets = .error cause ↔
      (∃ rest, readHeader octets = .fault cause rest) ∨
        ∃ header afterHeader rest, octets = Header.toBytes header ++ afterHeader ∧
          Read.BreaksOff nextGroup afterHeader cause rest := by
  have viaRead : Message.decode octets = .error cause ↔
      ∃ rest, readMessage octets = .fault cause rest := by
    rw [Message.decode]
    cases readMessage octets with
    | ok message rest => simp [Read.result]
    | fault cause rest => simp [Read.result]
  rw [viaRead]
  constructor
  · intro failed
    obtain ⟨rest, failed⟩ := failed
    rcases Read.andThen_eq_fault.mp failed with headerFailed | ⟨header, middle, found, failed⟩
    · exact .inl ⟨rest, headerFailed⟩
    · refine .inr ⟨header, middle, rest, readHeader_eq_ok_iff.mp found, ?_⟩
      rcases Read.andThen_eq_fault.mp failed with attributesFailed | ⟨_, _, _, impossible⟩
      · rcases Read.andThen_eq_fault.mp attributesFailed with groupsFailed | ⟨_, _, read, endFailed⟩
        · exact Read.many_eq_fault_iff.mp groupsFailed
        · obtain ⟨_, _, payload, rfl⟩ := repeats_nextGroup_iff.mp (Read.many_eq_ok_iff.mp read)
          cases endFailed
      · cases impossible
  · intro either
    rcases either with ⟨rest, headerFailed⟩ | ⟨header, middle, rest, same, breaks⟩
    · exact ⟨rest, Read.andThen_eq_fault.mpr (.inl headerFailed)⟩
    · have attributesFailed : readAttributes middle = .fault cause rest :=
        Read.andThen_eq_fault.mpr (.inl (Read.many_eq_fault_iff.mpr breaks))
      refine ⟨rest, Read.andThen_eq_fault.mpr (.inr ⟨header, middle, ?_, ?_⟩)⟩
      · exact readHeader_eq_ok_iff.mpr same
      · exact Read.andThen_eq_fault.mpr (.inl attributesFailed)

/-- Apart from truncations, decoding fails because of a group. -/
theorem decode_eq_error_iff {octets : Bytes} {cause : WireFault}
    (settled : ¬ cause.IsTruncation) :
    Message.decode octets = .error cause ↔
      ∃ header afterHeader rest, octets = Header.toBytes header ++ afterHeader ∧
        Read.BreaksOff nextGroup afterHeader cause rest := by
  rw [decode_eq_error_iff_header_or_group]
  exact or_iff_right fun ⟨_, failed⟩ => settled (isTruncation_of_readHeader failed)

/-- The name of the first attribute is reported with all its octets if it is no text. -/
theorem decode_of_unreadable_name (header : Header) {name rest : Bytes}
    (fits : name.length ≤ greatestFieldLength) (noText : Utf8.decode? name = none) :
    Message.decode (header.toBytes ++
        0x01 :: 0x44 :: (Bytes.ofUInt16 (UInt16.ofNat name.length) ++ name ++ rest)) =
      .error (.invalidName name) := by
  have settled := WireFault.not_isTruncation_invalidName name
  have nameFound : readField (Bytes.ofUInt16 (UInt16.ofNat name.length) ++ name ++ rest) =
      .ok name rest :=
    (readField_eq_ok_iff "").mpr (spells_encodeField_iff.mpr ⟨fits, rfl⟩)
  refine (decode_eq_error_iff settled).mpr ⟨header, _, rest, rfl, .here ?_⟩
  refine (nextGroup_eq_fault_iff settled).mpr
    ⟨_, _, rfl, by decide, .inr ⟨by decide, .here ?_⟩⟩
  exact (nextAttribute_eq_fault_iff settled).mpr
    ⟨_, _, name, rfl, by decide, nameFound, noText, rfl⟩

theorem ContinuesAttribute.of_append {input more : Bytes} (long : 3 ≤ input.length)
    (continues : ContinuesAttribute (input ++ more)) : ContinuesAttribute input := by
  match input, long with
  | _ :: _ :: _ :: rest, _ =>
      obtain ⟨_, _, same, noDelimiter⟩ := continues
      cases same
      exact ⟨_, rest, rfl, noDelimiter⟩

theorem BeginsWithDelimiter.append {input : Bytes} (begins : BeginsWithDelimiter input)
    (more : Bytes) : BeginsWithDelimiter (input ++ more) := by
  obtain ⟨code, rest, rfl, isDelimiter⟩ := begins
  exact ⟨code, rest ++ more, rfl, isDelimiter⟩

theorem two_le_length_of_spells_encodeField {name : String} {octets input rest : Bytes}
    (spelled : Spells (encodeField name) octets input rest) : 2 ≤ input.length := by
  obtain ⟨_, rfl⟩ := spells_encodeField_iff.mp spelled
  simp only [List.length_append, Bytes.length_ofUInt16]
  omega

/-- Where an attribute settles the outcome, there was enough to look ahead at. -/
theorem three_le_length_of_nextAttribute {input rest : Bytes} {cause : WireFault}
    (settled : ¬ cause.IsTruncation) (fails : nextAttribute input = some (.fault cause rest)) :
    3 ≤ input.length := by
  obtain ⟨code, afterTag, octets, rfl, _, fieldFound, _⟩ :=
    (nextAttribute_eq_fault_iff settled).mp fails
  have afterTagLong :=
    two_le_length_of_spells_encodeField ((readField_eq_ok_iff "").mp fieldFound)
  exact Nat.succ_le_succ afterTagLong

theorem nextAttribute_append_of_fault {input rest : Bytes} {cause : WireFault}
    (settled : ¬ cause.IsTruncation) (fails : nextAttribute input = some (.fault cause rest))
    (more : Bytes) : nextAttribute (input ++ more) = some (.fault cause (rest ++ more)) := by
  obtain ⟨code, afterTag, octets, rfl, noDelimiter, fieldFound, nameFails⟩ :=
    (nextAttribute_eq_fault_iff settled).mp fails
  have fieldSpelled := (readField_eq_ok_iff "").mp fieldFound
  have fieldFoundAgain : readField (afterTag ++ more) = .ok octets (rest ++ more) :=
    (readField_eq_ok_iff "").mpr (spells_append_more_iff.mpr fieldSpelled)
  exact (nextAttribute_eq_fault_iff settled).mpr
    ⟨code, afterTag ++ more, octets, rfl, noDelimiter, fieldFoundAgain, nameFails⟩

theorem breaksOff_nextAttribute_append {input rest : Bytes} {cause : WireFault}
    (settled : ¬ cause.IsTruncation) (breaks : Read.BreaksOff nextAttribute input cause rest)
    (more : Bytes) :
    Read.BreaksOff nextAttribute (input ++ more) cause (rest ++ more) := by
  obtain ⟨attrs, middle, passes, fails⟩ := Read.breaksOff_iff.mp breaks
  obtain ⟨wellFormed, spelled, ends⟩ := passes_nextAttribute_iff.mp passes
  have long := three_le_length_of_nextAttribute settled fails
  have passesAgain : Read.Passes nextAttribute (input ++ more) attrs (middle ++ more) :=
    passes_nextAttribute_iff.mpr ⟨wellFormed, spells_append_more_iff.mpr spelled,
      fun several continues => ends several (continues.of_append long)⟩
  exact Read.breaksOff_iff.mpr
    ⟨attrs, middle ++ more, passesAgain, nextAttribute_append_of_fault settled fails more⟩

theorem nextGroup_append_of_fault {input rest : Bytes} {cause : WireFault}
    (settled : ¬ cause.IsTruncation) (fails : nextGroup input = some (.fault cause rest))
    (more : Bytes) : nextGroup (input ++ more) = some (.fault cause (rest ++ more)) := by
  obtain ⟨code, afterTag, rfl, noEnd, fails⟩ := (nextGroup_eq_fault_iff settled).mp fails
  refine (nextGroup_eq_fault_iff settled).mpr ⟨code, afterTag ++ more, rfl, noEnd, ?_⟩
  rcases fails with ⟨unknown, same, rfl⟩ | ⟨known, breaks⟩
  · exact .inl ⟨unknown, same, rfl⟩
  · exact .inr ⟨known, breaksOff_nextAttribute_append settled breaks more⟩

theorem breaksOff_nextGroup_append {input rest : Bytes} {cause : WireFault}
    (settled : ¬ cause.IsTruncation) (breaks : Read.BreaksOff nextGroup input cause rest)
    (more : Bytes) :
    Read.BreaksOff nextGroup (input ++ more) cause (rest ++ more) := by
  obtain ⟨groups, middle, passes, fails⟩ := Read.breaksOff_iff.mp breaks
  obtain ⟨wellFormed, spelled, begins⟩ := passes_nextGroup_iff.mp passes
  have passesAgain : Read.Passes nextGroup (input ++ more) groups (middle ++ more) :=
    passes_nextGroup_iff.mpr ⟨wellFormed, spells_append_more_iff.mpr spelled,
      fun several => (begins several).append more⟩
  exact Read.breaksOff_iff.mpr
    ⟨groups, middle ++ more, passesAgain, nextGroup_append_of_fault settled fails more⟩

/-- A fault that is no truncation stays the same. -/
theorem decode_append_of_error {octets : Bytes} {cause : WireFault}
    (settled : ¬ cause.IsTruncation) (failed : Message.decode octets = .error cause)
    (more : Bytes) :
    Message.decode (octets ++ more) = .error cause := by
  obtain ⟨header, afterHeader, rest, rfl, breaks⟩ := (decode_eq_error_iff settled).mp failed
  exact (decode_eq_error_iff settled).mpr
    ⟨header, afterHeader ++ more, rest ++ more, List.append_assoc ..,
      breaksOff_nextGroup_append settled breaks more⟩

/-- More input behind a message is more payload, and the other way round. -/
theorem decode_append_iff {octets : Bytes} {message : Message} (more : Bytes) :
    Message.decode (octets ++ more) = .ok (message.setPayload (message.payload ++ more)) ↔
      Message.decode octets = .ok message := by
  rw [decode_eq_ok_iff, decode_eq_ok_iff, encode_message_eq_ok_iff, encode_message_eq_ok_iff]
  refine and_congr_right fun _ => ?_
  constructor
  · intro parts
    obtain ⟨_, same, attributes, encoded, rfl⟩ := parts
    have sameBeforeMore : octets ++ more =
        message.header.toBytes ++ (attributes ++ message.payload) ++ more := by
      simpa [Message.setPayload] using same
    exact ⟨attributes ++ message.payload, List.append_cancel_right sameBeforeMore,
      spells_append encoded _⟩
  · intro parts
    obtain ⟨afterHeader, rfl, spelled⟩ := parts
    exact ⟨afterHeader ++ more, List.append_assoc .., spells_append_more_iff.mpr spelled⟩

/-- A part of the payload is behind the octets that decide about the rest of a message. -/
theorem exists_payload_of_decode_append {octets more : Bytes} {message : Message}
    (decoded : Message.decode (octets ++ more) = .ok message)
    (short : more.length ≤ message.payload.length) :
    ∃ payload, message.payload = payload ++ more ∧
      Message.decode octets = .ok (message.setPayload payload) := by
  obtain ⟨_, encoded⟩ := decode_eq_ok_iff.mp decoded
  obtain ⟨_, same, attributes, _, rfl⟩ := encode_message_eq_ok_iff.mp encoded
  have payloadBehind : message.payload <:+ octets ++ more := by
    rw [same, ← List.append_assoc]
    exact List.suffix_append ..
  obtain ⟨payload, cut⟩ :=
    List.suffix_of_suffix_length_le (List.suffix_append octets more) payloadBehind short
  have sameMessage : (message.setPayload payload).setPayload (payload ++ more) = message := by
    rw [cut]
    rfl
  have decodedWhole : Message.decode (octets ++ more) =
      .ok ((message.setPayload payload).setPayload (payload ++ more)) := by
    rw [sameMessage]
    exact decoded
  exact ⟨payload, cut.symm, (decode_append_iff more).mp decodedWhole⟩

end Wire

namespace Message

/-- More input leaves every decision as it is: it only lengthens the payload of a message, and only
a truncation is revised.  So what is cut off from a message within its payload is still that
message, and what is cut off before it is truncated. -/
theorem decode_append (octets more : Bytes) :
    (∀ message, decode octets = .ok message →
      decode (octets ++ more) = .ok (message.setPayload (message.payload ++ more))) ∧
    (∀ code, decode octets = .error (.unrecognizedTag code) →
      decode (octets ++ more) = .error (.unrecognizedTag code)) ∧
    (∀ name, decode octets = .error (.invalidName name) →
      decode (octets ++ more) = .error (.invalidName name)) ∧
    (∀ message, decode (octets ++ more) = .ok message →
      (octets.length < (octets ++ more).length - message.payload.length →
        ∃ needed remaining, decode octets = .error (.truncated needed remaining)) ∧
      ((octets ++ more).length - message.payload.length ≤ octets.length →
        ∃ payload, message.payload = payload ++ more ∧
          decode octets = .ok (message.setPayload payload))) := by
  refine ⟨?accepted, ?unrecognized, ?nameless, ?cutOff⟩
  case accepted =>
    intro message decoded
    exact (Wire.decode_append_iff more).mpr decoded
  case unrecognized =>
    intro code failed
    exact Wire.decode_append_of_error (WireFault.not_isTruncation_unrecognizedTag code) failed more
  case nameless =>
    intro name failed
    exact Wire.decode_append_of_error (WireFault.not_isTruncation_invalidName name) failed more
  case cutOff =>
    intro message decoded
    constructor
    · intro tooShort
      cases outcome : decode octets with
      | ok front =>
          have whole := (Wire.decode_append_iff more).mpr outcome
          rw [decoded] at whole
          have payloadLength : message.payload.length = (front.payload ++ more).length :=
            congrArg (fun found : Message => found.payload.length) (Except.ok.inj whole)
          simp only [List.length_append] at tooShort payloadLength
          omega
      | error cause =>
          by_cases truncation : cause.IsTruncation
          · obtain ⟨needed, remaining, rfl⟩ := truncation
            exact ⟨needed, remaining, rfl⟩
          · have failedWhole := Wire.decode_append_of_error truncation outcome more
            rw [decoded] at failedWhole
            cases failedWhole
    · intro longEnough
      apply Wire.exists_payload_of_decode_append decoded
      simp only [List.length_append] at longEnough
      omega

/-- One more octet, a cut in the first group and a cut in the payload; and octets that no more input
turns into a message. -/
theorem decode_append_scattered :
    decode (scatteredOctets ++ [0x05]) = .ok (scattered.setPayload [0x03, 0x44, 0x05]) ∧
    (∃ needed remaining,
      decode (scatteredOctets.take 20) = .error (.truncated needed remaining)) ∧
    (∃ payload, [0x03, 0x44] = payload ++ [0x44] ∧
      decode (scatteredOctets.take 45) = .ok (scattered.setPayload payload)) ∧
    decode (scatteredOctets.take 8 ++ [0x0b] ++ scatteredOctets) =
      .error (.unrecognizedTag 0x0b) ∧
    decode (scatteredOctets.take 8 ++ [0x01, 0x44, 0, 1, 0xff] ++ scatteredOctets) =
      .error (.invalidName [0xff]) := by
  have cut (length : Nat) :
      decode (scatteredOctets.take length ++ scatteredOctets.drop length) = .ok scattered := by
    rw [List.take_append_drop]
    exact decode_scattered
  refine ⟨?_, ?_, ?_, ?_, ?_⟩
  · exact (decode_append scatteredOctets [0x05]).1 scattered decode_scattered
  · exact ((decode_append _ _).2.2.2 scattered (cut 20)).1 (by decide)
  · exact ((decode_append _ _).2.2.2 scattered (cut 45)).2 (by decide)
  · exact (decode_append _ scatteredOctets).2.1 0x0b (by decide +kernel)
  · exact (decode_append _ scatteredOctets).2.2.1 [0xff] (by decide +kernel)

end Message

end PrintProxy
