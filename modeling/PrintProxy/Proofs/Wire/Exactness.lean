import PrintProxy.Proofs.Wire.Fields
import PrintProxy.Proofs.Wire.Repetition
import PrintProxy.Proofs.Wire.WellFormed
import PrintProxy.Wire.Decode

/-!
# Reading is the inverse of spelling

Every reader is characterised by what it accepts: an input that spells the
value it returns, and where the reading stops.  A value without a name would
continue an attribute, so the rest behind an attribute must not begin with one;
a group is followed by a delimiter and the groups by the end tag.  At the top,
`decode_eq_ok_iff` says that a message is decoded from octets exactly when it
is well-formed and encoded to them.
-/

namespace PrintProxy.Wire

/-- Reads that follow one another are those of items that are spelled one behind another, if a read
ends where its item does and what may stand behind it is known of the next item. -/
theorem passes_iff_spells {α : Type} {next : Bytes → Option (Read α)}
    {encode : α → Except WireFault Bytes} {readable mayFollow : α → Prop} {ends : Bytes → Prop}
    (isRead : ∀ {item input rest}, next input = some (.ok item rest) ↔
      readable item ∧ Spells encode item input rest ∧ ends rest)
    (ends_iff : ∀ {item input rest}, readable item → Spells encode item input rest →
      (ends input ↔ mayFollow item))
    {items : List α} {input rest : Bytes} :
    Read.Passes next input items rest ↔
      ((∀ item ∈ items.tail, mayFollow item) ∧ ∀ item ∈ items, readable item) ∧
        Spells (encodeAll encode) items input rest ∧ (items ≠ [] → ends rest) := by
  induction items generalizing input with
  | nil => simp [Read.passes_nil_iff, spells_encodeAll_nil_iff]
  | cons item items ih =>
      simp only [Read.passes_cons_iff, isRead, ih, spells_encodeAll_cons_iff, List.tail_cons,
        List.forall_mem_cons, ne_eq, reduceCtorEq, not_false_eq_true, forall_const]
      cases items with
      | nil =>
          simp only [spells_encodeAll_nil_iff]
          constructor
          · rintro ⟨_, ⟨isReadable, spelled, ended⟩, _, rfl, _⟩
            exact ⟨⟨by simp, isReadable, by simp⟩, ⟨_, spelled, rfl⟩, ended⟩
          · rintro ⟨⟨_, isReadable, _⟩, ⟨_, spelled, rfl⟩, ended⟩
            exact ⟨_, ⟨isReadable, spelled, ended⟩, by simp, rfl, by simp⟩
      | cons second others =>
          simp only [List.tail_cons, List.forall_mem_cons, reduceCtorEq, not_false_eq_true,
            forall_const]
          constructor
          · rintro ⟨middle, ⟨isReadable, spelled, ended⟩, ⟨follow, areReadable⟩, behind, endsAll⟩
            obtain ⟨_, secondSpelled, _⟩ := spells_encodeAll_cons_iff.mp behind
            have follows := (ends_iff areReadable.1 secondSpelled).mp ended
            exact ⟨⟨⟨follows, follow⟩, isReadable, areReadable⟩, ⟨middle, spelled, behind⟩, endsAll⟩
          · rintro ⟨⟨⟨follows, follow⟩, isReadable, areReadable⟩,
              ⟨middle, spelled, behind⟩, endsAll⟩
            obtain ⟨_, secondSpelled, _⟩ := spells_encodeAll_cons_iff.mp behind
            have ended := (ends_iff areReadable.1 secondSpelled).mpr follows
            exact ⟨middle, ⟨isReadable, spelled, ended⟩, ⟨follow, areReadable⟩, behind, endsAll⟩

/-- The input begins with a value without a name. -/
def ContinuesAttribute (input : Bytes) : Prop :=
  ∃ code rest, input = code :: 0 :: 0 :: rest ∧ DelimiterTag.isDelimiterCode code = false

/-- The input begins with a delimiter, assigned or not. -/
def BeginsWithDelimiter (input : Bytes) : Prop :=
  ∃ code rest, input = code :: rest ∧ DelimiterTag.isDelimiterCode code = true

theorem BeginsWithDelimiter.not_continuesAttribute {input : Bytes}
    (begins : BeginsWithDelimiter input) : ¬ ContinuesAttribute input := by
  intro continues
  obtain ⟨code, rest, rfl, isDelimiter⟩ := begins
  obtain ⟨_, _, same, noDelimiter⟩ := continues
  cases same
  rw [isDelimiter] at noDelimiter
  cases noDelimiter

theorem isDelimiterCode_of_isCanonical {tag : ValueTag} (canonical : tag.IsCanonical) :
    DelimiterTag.isDelimiterCode tag.code = false := by
  cases isDelimiter : DelimiterTag.isDelimiterCode tag.code with
  | false => rfl
  | true =>
      have noTag := ValueTag.ofCode?_eq_none_iff.mpr isDelimiter
      rw [canonical] at noTag
      cases noTag

theorem toUInt16_pair_eq_zero_iff {high low : UInt8} :
    Bytes.toUInt16 [high, low] = 0 ↔ high = 0 ∧ low = 0 := by
  constructor
  · intro isZero
    have written : Bytes.ofUInt16 (Bytes.toUInt16 [high, low]) = [high, low] :=
      Bytes.ofUInt16_toUInt16 rfl
    rw [isZero] at written
    have zeroes : Bytes.ofUInt16 0 = [0, 0] := by decide
    rw [zeroes] at written
    cases written
    exact ⟨rfl, rfl⟩
  · intro zeroes
    rw [zeroes.1, zeroes.2]
    decide

theorem nextAdditional_unit (code : UInt8) (rest : Bytes) :
    nextAdditional (code :: 0 :: 0 :: rest) =
      (ValueTag.ofCode? code).map fun tag => (readField rest).map (TaggedValue.mk tag) :=
  rfl

theorem unit_of_nextAdditional {input : Bytes} {read : Read TaggedValue}
    (step : nextAdditional input = some read) :
    ∃ code rest, input = code :: 0 :: 0 :: rest := by
  unfold nextAdditional at step
  split at step
  · cases step
  · rename_i head peeked
    split at step
    · rename_i additional
      unfold peekUnit at peeked
      split at peeked
      · rename_i code high low rest
        cases peeked
        have noName : Bytes.toUInt16 [high, low] = 0 := by
          simpa [UnitHead.isAdditional] using additional
        obtain ⟨rfl, rfl⟩ := toUInt16_pair_eq_zero_iff.mp noName
        exact ⟨code, rest, rfl⟩
      · cases peeked
    · cases step

theorem nextAdditional_eq_none_iff {input : Bytes} :
    nextAdditional input = none ↔ ¬ ContinuesAttribute input := by
  constructor
  · intro stops continues
    obtain ⟨code, rest, rfl, noDelimiter⟩ := continues
    rw [nextAdditional_unit, Option.map_eq_none_iff, ValueTag.ofCode?_eq_none_iff] at stops
    rw [stops] at noDelimiter
    cases noDelimiter
  · intro ends
    cases step : nextAdditional input with
    | none => rfl
    | some read =>
        obtain ⟨code, rest, rfl⟩ := unit_of_nextAdditional step
        rw [nextAdditional_unit] at step
        obtain ⟨tag, found, _⟩ := Option.map_eq_some_iff.mp step
        obtain ⟨rfl, canonical⟩ := ValueTag.ofCode?_eq_some_iff.mp found
        exact absurd ⟨_, rest, rfl, isDelimiterCode_of_isCanonical canonical⟩ ends

theorem nextAdditional_eq_ok_iff (name : String) {input rest : Bytes} {tagged : TaggedValue} :
    nextAdditional input = some (.ok tagged rest) ↔
      tagged.tag.IsCanonical ∧ Spells (encodeAdditional name) tagged input rest := by
  rw [spells_encodeAdditional_iff]
  constructor
  · intro step
    obtain ⟨code, middle, rfl⟩ := unit_of_nextAdditional step
    rw [nextAdditional_unit] at step
    obtain ⟨tag, found, valueFound⟩ := Option.map_eq_some_iff.mp step
    obtain ⟨octets, fieldFound, rfl⟩ := Read.map_eq_ok.mp valueFound
    obtain ⟨rfl, canonical⟩ := ValueTag.ofCode?_eq_some_iff.mp found
    exact ⟨canonical, middle, rfl, (readField_eq_ok_iff name).mp fieldFound⟩
  · intro parts
    obtain ⟨canonical, middle, rfl, spelled⟩ := parts
    have found := ValueTag.ofCode?_eq_some_iff.mpr ⟨rfl, canonical⟩
    have fieldFound := (readField_eq_ok_iff name).mpr spelled
    rw [nextAdditional_unit, found, fieldFound]
    rfl

theorem passes_nextAdditional_iff (name : String) {values : List TaggedValue}
    {input rest : Bytes} :
    Read.Passes nextAdditional input values rest ↔
      (∀ tagged ∈ values, tagged.tag.IsCanonical) ∧
        Spells (encodeAll (encodeAdditional name)) values input rest := by
  have passes := @passes_iff_spells _ nextAdditional (encodeAdditional name)
    (fun tagged => tagged.tag.IsCanonical) (fun _ => True) (fun _ => True)
    (by simp [nextAdditional_eq_ok_iff name]) (by simp) values input rest
  simpa using passes

/-- The further values of an attribute end before the first unit that has a name or is none. -/
theorem repeats_nextAdditional_iff (name : String) {values : List TaggedValue}
    {input rest : Bytes} :
    Read.Repeats nextAdditional input values rest ↔
      (∀ tagged ∈ values, tagged.tag.IsCanonical) ∧
        Spells (encodeAll (encodeAdditional name)) values input rest ∧
        ¬ ContinuesAttribute rest := by
  rw [Read.repeats_iff, passes_nextAdditional_iff name, nextAdditional_eq_none_iff, and_assoc]

/-- An attribute is read where it is spelled and no further value follows. -/
theorem readAttribute_eq_ok_iff {attr : Attribute} {input rest : Bytes} :
    readAttribute input = .ok attr rest ↔
      attr.IsCanonical ∧ Spells Attribute.encode attr input rest ∧
        ¬ ContinuesAttribute rest := by
  rw [spells_attribute_iff, readAttribute, Read.andThen_eq_ok]
  constructor
  · intro found
    obtain ⟨code, afterTag, tagFound, found⟩ := found
    have spelledTag := readOctet_eq_ok_iff.mp tagFound
    split at found
    · cases found
    · rename_i tag known
      obtain ⟨rfl, canonical⟩ := ValueTag.ofCode?_eq_some_iff.mp known
      obtain ⟨name, afterName, nameFound, found⟩ := Read.andThen_eq_ok.mp found
      obtain ⟨octets, afterValue, valueFound, found⟩ := Read.andThen_eq_ok.mp found
      obtain ⟨more, moreFound, rfl⟩ := Read.map_eq_ok.mp found
      obtain ⟨moreCanonical, moreSpelled, ends⟩ :=
        (repeats_nextAdditional_iff name).mp (Read.many_eq_ok_iff.mp moreFound)
      exact ⟨List.forall_mem_cons.mpr ⟨canonical, moreCanonical⟩,
        ⟨afterTag, afterName, afterValue, spelledTag, readName_eq_ok_iff.mp nameFound,
          (readField_eq_ok_iff name).mp valueFound, moreSpelled⟩, ends⟩
  · intro parts
    obtain ⟨canonical, ⟨afterTag, afterName, afterValue, rfl, nameSpelled, valueSpelled,
      moreSpelled⟩, ends⟩ := parts
    obtain ⟨firstCanonical, moreCanonical⟩ := List.forall_mem_cons.mp canonical
    have known := ValueTag.ofCode?_eq_some_iff.mpr ⟨rfl, firstCanonical⟩
    have moreFound :
        Read.many nextAdditional nextAdditional_shrinks [] afterValue = .ok attr.more rest :=
      Read.many_eq_ok_iff.mpr
        ((repeats_nextAdditional_iff attr.name).mpr ⟨moreCanonical, moreSpelled, ends⟩)
    refine ⟨attr.first.tag.code, afterTag, rfl, ?_⟩
    rw [known]
    refine Read.andThen_eq_ok.mpr ⟨attr.name, afterName, readName_eq_ok_iff.mpr nameSpelled, ?_⟩
    refine Read.andThen_eq_ok.mpr
      ⟨attr.first.octets, afterValue, (readField_eq_ok_iff attr.name).mpr valueSpelled, ?_⟩
    exact Read.map_eq_ok.mpr ⟨attr.more, moreFound, rfl⟩

theorem encode_eq_nil_iff {name : String} : Utf8.encode name = [] ↔ name = "" := by
  constructor
  · intro noOctets
    have decoded := Utf8.decode?_encode name
    have emptyDecoded := Utf8.decode?_encode ""
    have emptyOctets : Utf8.encode "" = [] := rfl
    rw [emptyOctets, ← noOctets, decoded] at emptyDecoded
    exact Option.some.inj emptyDecoded
  · intro same
    rw [same]
    rfl

/-- What continues an attribute is exactly an attribute without a name. -/
theorem continuesAttribute_iff {attr : Attribute} {input rest : Bytes}
    (canonical : attr.IsCanonical) (spelled : Spells Attribute.encode attr input rest) :
    ContinuesAttribute input ↔ attr.name = "" := by
  obtain ⟨afterTag, afterName, _, rfl, nameSpelled, _⟩ := spells_attribute_iff.mp spelled
  obtain ⟨fits, rfl⟩ := spells_encodeField_iff.mp nameSpelled
  have noDelimiter := isDelimiterCode_of_isCanonical (canonical attr.first List.mem_cons_self)
  obtain ⟨high, low, lengthWritten⟩ := ofUInt16_eq_pair
    (UInt16.ofNat (Utf8.encode attr.name).length)
  have lengthRead := Bytes.toUInt16_ofUInt16 (UInt16.ofNat (Utf8.encode attr.name).length)
  rw [lengthWritten] at lengthRead ⊢
  constructor
  · intro continues
    obtain ⟨_, _, same, _⟩ := continues
    cases same
    have noLength : UInt16.ofNat (Utf8.encode attr.name).length = 0 :=
      lengthRead.symm.trans (toUInt16_pair_eq_zero_iff.mpr ⟨rfl, rfl⟩)
    have lengthZero := congrArg UInt16.toNat noLength
    simp only [greatestFieldLength] at fits
    rw [UInt16.toNat_ofNat', Nat.mod_eq_of_lt (by omega)] at lengthZero
    exact encode_eq_nil_iff.mp (List.eq_nil_of_length_eq_zero lengthZero)
  · intro nameless
    have noOctets := encode_eq_nil_iff.mpr nameless
    rw [noOctets] at lengthRead ⊢
    obtain ⟨rfl, rfl⟩ := toUInt16_pair_eq_zero_iff.mp lengthRead
    exact ⟨_, _, rfl, noDelimiter⟩

theorem nextAttribute_cons (code : UInt8) (rest : Bytes) :
    nextAttribute (code :: rest) =
      if DelimiterTag.isDelimiterCode code then none else some (readAttribute (code :: rest)) :=
  rfl

theorem nextAttribute_eq_none_iff {input : Bytes} :
    nextAttribute input = none ↔ BeginsWithDelimiter input := by
  cases input with
  | nil =>
      constructor
      · intro stops
        cases stops
      · intro begins
        obtain ⟨_, _, same, _⟩ := begins
        cases same
  | cons code rest =>
      rw [nextAttribute_cons]
      constructor
      · intro stops
        split at stops
        · rename_i isDelimiter
          exact ⟨code, rest, rfl, isDelimiter⟩
        · cases stops
      · intro begins
        obtain ⟨_, _, same, isDelimiter⟩ := begins
        cases same
        exact if_pos isDelimiter

theorem nextAttribute_eq_ok_iff {attr : Attribute} {input rest : Bytes} :
    nextAttribute input = some (.ok attr rest) ↔ readAttribute input = .ok attr rest := by
  constructor
  · intro step
    unfold nextAttribute at step
    split at step
    · cases step
    · split at step
      · cases step
      · exact Option.some.inj step
  · intro found
    obtain ⟨canonical, spelled, _⟩ := readAttribute_eq_ok_iff.mp found
    obtain ⟨_, _, _, rfl, _⟩ := spells_attribute_iff.mp spelled
    have noDelimiter := isDelimiterCode_of_isCanonical (canonical attr.first List.mem_cons_self)
    rw [← found]
    exact if_neg (by simp [noDelimiter])

/-- Attributes are read one behind another if only the first has no name. -/
theorem passes_nextAttribute_iff {attrs : List Attribute} {input rest : Bytes} :
    Read.Passes nextAttribute input attrs rest ↔
      ((∀ attr ∈ attrs.tail, attr.name ≠ "") ∧ ∀ attr ∈ attrs, attr.IsCanonical) ∧
        Spells (encodeAll Attribute.encode) attrs input rest ∧
        (attrs ≠ [] → ¬ ContinuesAttribute rest) := by
  exact @passes_iff_spells _ nextAttribute Attribute.encode Attribute.IsCanonical (·.name ≠ "")
    (¬ContinuesAttribute ·)
    (by simp only [nextAttribute_eq_ok_iff, readAttribute_eq_ok_iff, implies_true])
    (fun canonical spelled => not_congr (continuesAttribute_iff canonical spelled))
    attrs input rest

/-- The attributes of a group end before a delimiter, and only the first may have no name. -/
theorem repeats_nextAttribute_iff {attrs : List Attribute} {input rest : Bytes} :
    Read.Repeats nextAttribute input attrs rest ↔
      ((∀ attr ∈ attrs.tail, attr.name ≠ "") ∧ ∀ attr ∈ attrs, attr.IsCanonical) ∧
        Spells (encodeAll Attribute.encode) attrs input rest ∧ BeginsWithDelimiter rest := by
  rw [Read.repeats_iff, passes_nextAttribute_iff, nextAttribute_eq_none_iff]
  constructor
  · rintro ⟨⟨wellFormed, spelled, _⟩, begins⟩
    exact ⟨wellFormed, spelled, begins⟩
  · rintro ⟨wellFormed, spelled, begins⟩
    exact ⟨⟨wellFormed, spelled, fun _ => begins.not_continuesAttribute⟩, begins⟩

/-- A group is read where it is spelled and a delimiter follows. -/
theorem readGroup_eq_ok_iff {group : AttributeGroup} {input rest : Bytes} :
    readGroup input = .ok group rest ↔
      group.WellFormed ∧ Spells AttributeGroup.encode group input rest ∧
        BeginsWithDelimiter rest := by
  rw [spells_group_iff, readGroup, Read.andThen_eq_ok]
  constructor
  · intro found
    obtain ⟨code, afterTag, tagFound, found⟩ := found
    have spelledTag := readOctet_eq_ok_iff.mp tagFound
    split at found
    · cases found
    · rename_i tag known
      rw [← DelimiterTag.ofCode?_eq_some_iff.mp known] at spelledTag
      obtain ⟨attrs, attrsFound, rfl⟩ := Read.map_eq_ok.mp found
      obtain ⟨⟨named, canonical⟩, spelled, begins⟩ :=
        repeats_nextAttribute_iff.mp (Read.many_eq_ok_iff.mp attrsFound)
      exact ⟨⟨named, canonical⟩, ⟨afterTag, spelledTag, spelled⟩, begins⟩
  · intro parts
    obtain ⟨wellFormed, ⟨afterTag, rfl, spelled⟩, begins⟩ := parts
    have attrsFound :
        Read.many nextAttribute nextAttribute_shrinks [] afterTag = .ok group.attributes rest :=
      Read.many_eq_ok_iff.mpr (repeats_nextAttribute_iff.mpr
        ⟨⟨wellFormed.onlyFirstNameless, wellFormed.canonicalTags⟩, spelled, begins⟩)
    refine ⟨group.tag.code, afterTag, rfl, ?_⟩
    rw [DelimiterTag.ofCode?_code]
    exact Read.map_eq_ok.mpr ⟨group.attributes, attrsFound, rfl⟩

theorem nextGroup_cons (code : UInt8) (rest : Bytes) :
    nextGroup (code :: rest) =
      if code = DelimiterTag.endOfAttributes.code then none else some (readGroup (code :: rest)) :=
  rfl

theorem nextGroup_eq_none_iff {input : Bytes} :
    nextGroup input = none ↔
      ∃ payload, input = DelimiterTag.endOfAttributes.code :: payload := by
  cases input with
  | nil =>
      constructor
      · intro stops
        cases stops
      · intro ends
        obtain ⟨_, same⟩ := ends
        cases same
  | cons code rest =>
      rw [nextGroup_cons]
      constructor
      · intro stops
        split at stops
        · rename_i isEnd
          exact ⟨rest, by rw [isEnd]⟩
        · cases stops
      · intro ends
        obtain ⟨_, same⟩ := ends
        cases same
        exact if_pos rfl

theorem code_eq_endOfAttributes_iff {tag : DelimiterTag} :
    tag.code = DelimiterTag.endOfAttributes.code ↔ tag = .endOfAttributes := by
  constructor
  · intro sameCode
    have known := DelimiterTag.ofCode?_code tag
    rw [sameCode, DelimiterTag.ofCode?_code] at known
    exact (Option.some.inj known).symm
  · intro same
    rw [same]

theorem nextGroup_eq_ok_iff {group : AttributeGroup} {input rest : Bytes} :
    nextGroup input = some (.ok group rest) ↔
      group.tag ≠ .endOfAttributes ∧ readGroup input = .ok group rest := by
  constructor
  · intro step
    unfold nextGroup at step
    split at step
    · cases step
    · rename_i code peeked
      split at step
      · cases step
      · rename_i noEnd
        have found := Option.some.inj step
        obtain ⟨_, spelled, _⟩ := readGroup_eq_ok_iff.mp found
        obtain ⟨_, rfl, _⟩ := spells_group_iff.mp spelled
        cases peeked
        exact ⟨fun isEnd => noEnd (code_eq_endOfAttributes_iff.mpr isEnd), found⟩
  · intro parts
    obtain ⟨noEnd, found⟩ := parts
    obtain ⟨_, spelled, _⟩ := readGroup_eq_ok_iff.mp found
    obtain ⟨_, rfl, _⟩ := spells_group_iff.mp spelled
    rw [← found]
    exact if_neg fun isEnd => noEnd (code_eq_endOfAttributes_iff.mp isEnd)

theorem beginsWithDelimiter_of_spells {group : AttributeGroup} {input rest : Bytes}
    (spelled : Spells AttributeGroup.encode group input rest) : BeginsWithDelimiter input := by
  obtain ⟨afterTag, rfl, _⟩ := spells_group_iff.mp spelled
  exact ⟨_, afterTag, rfl, DelimiterTag.isDelimiterCode_code _⟩

theorem passes_nextGroup_iff {groups : List AttributeGroup} {input rest : Bytes} :
    Read.Passes nextGroup input groups rest ↔
      (∀ group ∈ groups, group.tag ≠ .endOfAttributes ∧ group.WellFormed) ∧
        Spells (encodeAll AttributeGroup.encode) groups input rest ∧
        (groups ≠ [] → BeginsWithDelimiter rest) := by
  have passes := @passes_iff_spells _ nextGroup AttributeGroup.encode
    (fun group => group.tag ≠ .endOfAttributes ∧ group.WellFormed) (fun _ => True)
    BeginsWithDelimiter
    (by simp [nextGroup_eq_ok_iff, readGroup_eq_ok_iff, and_assoc])
    (fun _ spelled => iff_of_true (beginsWithDelimiter_of_spells spelled) trivial)
    groups input rest
  simpa only [implies_true, true_and] using passes

/-- The groups of a message end before the first end tag. -/
theorem repeats_nextGroup_iff {groups : List AttributeGroup} {input rest : Bytes} :
    Read.Repeats nextGroup input groups rest ↔
      (∀ group ∈ groups, group.tag ≠ .endOfAttributes ∧ group.WellFormed) ∧
        Spells (encodeAll AttributeGroup.encode) groups input rest ∧
        ∃ payload, rest = DelimiterTag.endOfAttributes.code :: payload := by
  rw [Read.repeats_iff, passes_nextGroup_iff, nextGroup_eq_none_iff]
  constructor
  · rintro ⟨⟨wellFormed, spelled, _⟩, ends⟩
    exact ⟨wellFormed, spelled, ends⟩
  · rintro ⟨wellFormed, spelled, payload, rfl⟩
    have begins : BeginsWithDelimiter (DelimiterTag.endOfAttributes.code :: payload) :=
      ⟨_, payload, rfl, DelimiterTag.isDelimiterCode_code _⟩
    exact ⟨⟨wellFormed, spelled, fun _ => begins⟩, payload, rfl⟩

theorem readAttributes_eq_ok_iff {attributes : Attributes} {input rest : Bytes} :
    readAttributes input = .ok attributes rest ↔
      attributes.WellFormed ∧ Spells Attributes.encode attributes input rest := by
  rw [spells_attributes_iff, Attributes.wellFormed_iff, readAttributes, Read.andThen_eq_ok]
  constructor
  · intro found
    obtain ⟨groups, middle, groupsFound, found⟩ := found
    obtain ⟨code, endFound, rfl⟩ := Read.map_eq_ok.mp found
    obtain ⟨wellFormed, spelled, _, rfl⟩ :=
      repeats_nextGroup_iff.mp (Read.many_eq_ok_iff.mp groupsFound)
    cases endFound
    exact ⟨wellFormed, spelled⟩
  · intro parts
    obtain ⟨wellFormed, spelled⟩ := parts
    have groupsFound :
        Read.many nextGroup nextGroup_shrinks [] input =
          .ok attributes.groups (DelimiterTag.endOfAttributes.code :: rest) :=
      Read.many_eq_ok_iff.mpr (repeats_nextGroup_iff.mpr ⟨wellFormed, spelled, rest, rfl⟩)
    exact ⟨attributes.groups, _, groupsFound, rfl⟩

/-- A message is decoded from octets exactly when it is well-formed and encoded to them. -/
theorem decode_eq_ok_iff {octets : Bytes} {message : Message} :
    Message.decode octets = .ok message ↔
      message.attributes.WellFormed ∧ message.encode = .ok octets := by
  have viaRead : Message.decode octets = .ok message ↔ readMessage octets = .ok message [] := by
    rw [Message.decode, readMessage]
    cases readHeader octets with
    | fault cause rest => simp [Read.andThen, Read.result]
    | ok header rest =>
        simp only [Read.andThen]
        cases readAttributes rest with
        | fault cause left => simp [Read.result]
        | ok attributes payload => simp [Read.result]
  rw [viaRead, encode_message_eq_ok_iff, readMessage, Read.andThen_eq_ok]
  constructor
  · intro found
    obtain ⟨header, afterHeader, headerFound, found⟩ := found
    obtain ⟨attributes, payload, attributesFound, same⟩ := Read.andThen_eq_ok.mp found
    cases same
    obtain ⟨wellFormed, spelled⟩ := readAttributes_eq_ok_iff.mp attributesFound
    exact ⟨wellFormed, afterHeader, readHeader_eq_ok_iff.mp headerFound, spelled⟩
  · intro parts
    obtain ⟨wellFormed, afterHeader, headerSpelled, spelled⟩ := parts
    refine ⟨message.header, afterHeader, readHeader_eq_ok_iff.mpr headerSpelled, ?_⟩
    exact Read.andThen_eq_ok.mpr
      ⟨message.attributes, message.payload,
        readAttributes_eq_ok_iff.mpr ⟨wellFormed, spelled⟩, rfl⟩

end PrintProxy.Wire
