import PrintProxy.Proofs.Value.RoundTrip

/-!
# What is lost when octets are read

Octets cannot be read under a tag only if the tag fixes their number and they
are of another.  What is read has the tag, and it has the octets as well, but for
three losses: a truth has two octets of its own, octets of a text syntax that are
no text are repaired, and those of `no-value` are dropped.  Whatever is lost is
lost once: the octets of the value are read as the value.
-/

namespace PrintProxy

/-- Repairing leaves exactly those octets alone that are a text. -/
theorem Utf8.encode_decodeRepairing_iff {octets : Bytes} :
    encode (decodeRepairing octets) = octets ↔ ∃ text, encode text = octets := by
  constructor
  · intro same
    exact ⟨_, same⟩
  · rintro ⟨text, rfl⟩
    rw [decodeRepairing_encode]

theorem ValueTag.textSyntax?_eq_some_iff {tag : ValueTag} {kind : TextSyntax} :
    tag.textSyntax? = some kind ↔ tag = kind.tag := by
  constructor
  · intro found
    cases tag <;> cases found <;> rfl
  · rintro rfl
    exact textSyntax?_tag kind

namespace Value

variable {tag : ValueTag} {octets : Bytes} {value : Value}

/-- The tag fixes the number of octets, and these are of another number. -/
def Misfits : ValueTag → Bytes → Prop
  | .integer, octets | .enum, octets => octets.length ≠ 4
  | .boolean, octets => octets.length ≠ 1
  | .rangeOfInteger, octets => octets.length ≠ 8
  | .resolution, octets => octets.length ≠ 9
  | .dateTime, octets => octets.length ≠ 11
  | _, _ => False

/-- What the octets say under the tag does not tell what they are. -/
inductive Loses (tag : ValueTag) (octets : Bytes) : Prop
  | truth (isTruth : tag = .boolean) (isNeither : octets ≠ [0] ∧ octets ≠ [1])
  | text (kind : TextSyntax) (isText : tag = kind.tag) (isNone : ∀ text, Utf8.encode text ≠ octets)
  | nothing (isNothing : tag = .noValue) (isSome : octets ≠ [])

theorem misfits_iff :
    Misfits tag octets ↔ ∃ length, tag.fixedLength? = some length ∧ octets.length ≠ length := by
  cases tag <;> simp [Misfits, ValueTag.fixedLength?]

theorem loses_boolean_iff : Loses .boolean octets ↔ octets ≠ [0] ∧ octets ≠ [1] := by
  constructor
  · intro loses
    cases loses with
    | truth _ isNeither => exact isNeither
    | text kind isText _ => cases kind <;> cases isText
    | nothing isNothing _ => cases isNothing
  · exact .truth rfl

theorem not_loses_of_fixedLength? {length : Nat} (fixed : tag.fixedLength? = some length)
    (noTruth : tag ≠ .boolean) : ¬Loses tag octets := by
  intro loses
  cases loses with
  | truth isTruth _ => exact noTruth isTruth
  | text kind isText _ =>
      rw [isText, ValueTag.fixedLength?_tag] at fixed
      cases fixed
  | nothing isNothing _ =>
      rw [isNothing] at fixed
      cases fixed

theorem parseFixed?_of_misfits (misfits : Misfits tag octets) : parseFixed? tag octets = none := by
  unfold parseFixed?
  split <;> first | rfl | simp [Misfits] at misfits

/-- The octets are read as a value of the tag that has the same octets. -/
def Keeps (tag : ValueTag) (octets : Bytes) : Prop :=
  ∃ value, parseFixed? tag octets = some value ∧ value.tag = tag ∧ value.toBytes = octets

theorem keeps_integer_or_enum (isNumber : tag = .integer ∨ tag = .enum)
    (fourOctets : octets.length = 4) : Keeps tag octets := by
  match octets, fourOctets with
  | [a, b, c, d], _ =>
      rcases isNumber with rfl | rfl
      · exact ⟨_, rfl, rfl, Bytes.ofInt32_toInt32 rfl⟩
      · exact ⟨_, rfl, rfl, Bytes.ofInt32_toInt32 rfl⟩

theorem keeps_rangeOfInteger (eightOctets : octets.length = 8) : Keeps .rangeOfInteger octets := by
  match octets, eightOctets with
  | [a, b, c, d, e, f, g, h], _ =>
      refine ⟨_, rfl, rfl, ?_⟩
      rw [toBytes, Bytes.ofInt32_toInt32 rfl, Bytes.ofInt32_toInt32 rfl]
      rfl

theorem keeps_resolution (nineOctets : octets.length = 9) : Keeps .resolution octets := by
  match octets, nineOctets with
  | [a, b, c, d, e, f, g, h, units], _ =>
      refine ⟨_, rfl, rfl, ?_⟩
      rw [toBytes, Bytes.ofInt32_toInt32 rfl, Bytes.ofInt32_toInt32 rfl]
      rfl

theorem keeps_dateTime (elevenOctets : octets.length = 11) : Keeps .dateTime octets := by
  match octets, elevenOctets with
  | [a, b, _, _, _, _, _, _, _, _, _], _ =>
      refine ⟨_, rfl, rfl, ?_⟩
      rw [toBytes, Bytes.ofUInt16_toUInt16 rfl]
      rfl

theorem keeps_of_fixedLength? (fits : tag.fixedLength? = some octets.length)
    (noTruth : tag ≠ .boolean) : Keeps tag octets := by
  cases tag with
  | integer => exact keeps_integer_or_enum (.inl rfl) (Option.some.inj fits).symm
  | enum => exact keeps_integer_or_enum (.inr rfl) (Option.some.inj fits).symm
  | boolean => exact absurd rfl noTruth
  | rangeOfInteger => exact keeps_rangeOfInteger (Option.some.inj fits).symm
  | resolution => exact keeps_resolution (Option.some.inj fits).symm
  | dateTime => exact keeps_dateTime (Option.some.inj fits).symm
  | _ => cases fits

theorem toBytes_boolean_eq_iff (octet : UInt8) :
    (boolean (octet != 0)).toBytes = [octet] ↔ ¬Loses .boolean [octet] := by
  rw [loses_boolean_iff]
  by_cases isFalse : octet = 0
  · simp [toBytes, isFalse]
  · simp [toBytes, isFalse, @eq_comm _ 1 octet]

/-- Octets of the right number are read, and only a truth may have lost something. -/
theorem exists_parseFixed? (fits : tag.fixedLength? = some octets.length) :
    ∃ value, parseFixed? tag octets = some value ∧ value.tag = tag ∧
      (value.toBytes = octets ↔ ¬Loses tag octets) := by
  by_cases isTruth : tag = .boolean
  · subst isTruth
    obtain ⟨octet, rfl⟩ := List.length_eq_one_iff.mp (Option.some.inj fits).symm
    exact ⟨_, rfl, rfl, toBytes_boolean_eq_iff octet⟩
  · obtain ⟨value, found, sameTag, sameOctets⟩ := keeps_of_fixedLength? fits isTruth
    exact ⟨value, found, sameTag, iff_of_true sameOctets (not_loses_of_fixedLength? fits isTruth)⟩

theorem loses_tag_iff {kind : TextSyntax} :
    Loses kind.tag octets ↔ ¬∃ text, Utf8.encode text = octets := by
  constructor
  · intro loses
    cases loses with
    | truth isTruth _ => cases kind <;> cases isTruth
    | text _ _ isNone => exact not_exists.mpr isNone
    | nothing isNothing _ => cases kind <;> cases isNothing
  · intro isNone
    exact .text kind rfl (not_exists.mp isNone)

theorem loses_noValue_iff : Loses .noValue octets ↔ octets ≠ [] := by
  constructor
  · intro loses
    cases loses with
    | truth isTruth _ => cases isTruth
    | text kind isText _ => cases kind <;> cases isText
    | nothing _ isSome => exact isSome
  · exact .nothing rfl

theorem not_loses_of_not_mem_interpreted (free : tag ∉ ValueTag.interpreted) :
    ¬Loses tag octets := by
  intro loses
  cases loses with
  | truth isTruth _ =>
      rw [isTruth] at free
      exact free (by decide)
  | text kind isText _ =>
      rw [isText] at free
      exact free (by cases kind <;> decide)
  | nothing isNothing _ =>
      rw [isNothing] at free
      exact free (by decide)

/-- Octets under a tag that does not fix their number are always read. -/
theorem exists_parse_of_free (free : tag.fixedLength? = none) :
    ∃ value, parse tag octets = .ok value ∧ value.tag = tag ∧
      (value.toBytes = octets ↔ ¬Loses tag octets) := by
  rw [parse, free]
  cases isText : tag.textSyntax? with
  | some kind =>
      refine ⟨_, rfl, (ValueTag.textSyntax?_eq_some_iff.mp isText).symm, ?_⟩
      rw [ValueTag.textSyntax?_eq_some_iff.mp isText, loses_tag_iff, not_not]
      exact Utf8.encode_decodeRepairing_iff
  | none =>
      by_cases isNothing : tag = .noValue
      · refine ⟨_, congrArg Except.ok (if_pos isNothing), isNothing.symm, ?_⟩
        rw [isNothing, loses_noValue_iff, not_not]
        exact eq_comm
      · refine ⟨_, congrArg Except.ok (if_neg isNothing), rfl, iff_of_true rfl ?_⟩
        apply not_loses_of_not_mem_interpreted
        simp [ValueTag.mem_interpreted_iff, free, isText, isNothing]

theorem parse_of_misfits (misfits : Misfits tag octets) :
    parse tag octets = .error (.invalidValue tag.code octets.length) := by
  obtain ⟨length, fixed, _⟩ := misfits_iff.mp misfits
  rw [parse, fixed, parseFixed?_of_misfits misfits]

theorem exists_parse_of_not_misfits (fits : ¬Misfits tag octets) :
    ∃ value, parse tag octets = .ok value ∧ value.tag = tag ∧
      (value.toBytes = octets ↔ ¬Loses tag octets) := by
  cases fixed : tag.fixedLength? with
  | none => exact exists_parse_of_free fixed
  | some length =>
      have sameLength : octets.length = length := by
        by_contra other
        exact fits (misfits_iff.mpr ⟨length, fixed, other⟩)
      rw [← sameLength] at fixed
      obtain ⟨value, found, what⟩ := exists_parseFixed? fixed
      refine ⟨value, ?_, what⟩
      rw [parse, fixed, found]

/-- What has been read is never kept under a tag that gives its octets a meaning. -/
theorem not_mistagged_of_parse (read : parse tag octets = .ok value) : ¬value.Mistagged := by
  cases value with
  | other kept _ =>
      obtain ⟨free, rfl, _⟩ := parse_eq_ok_other_iff.mp read
      exact free
  | _ => exact not_false

/-- Octets are refused exactly under a tag that fixes another number of them.  What is read has
the tag; it has the octets as well exactly if they lose nothing; and its octets are read as
itself. -/
theorem parse_loses_iff (tag : ValueTag) (octets : Bytes) :
    (∀ fault, parse tag octets = .error fault ↔
      Misfits tag octets ∧ fault = .invalidValue tag.code octets.length) ∧
    ∀ value, parse tag octets = .ok value →
      value.tag = tag ∧ (value.toBytes = octets ↔ ¬Loses tag octets) ∧
        parse tag value.toBytes = .ok value := by
  by_cases misfits : Misfits tag octets
  · rw [parse_of_misfits misfits]
    constructor
    · intro fault
      rw [Except.error.injEq, and_iff_right misfits, eq_comm]
    · intro value read
      cases read
  · obtain ⟨value, read, sameTag, sameOctets⟩ := exists_parse_of_not_misfits misfits
    have readBack := (parse_tag_toBytes_iff value).mpr (not_mistagged_of_parse read)
    rw [sameTag] at readBack
    rw [read]
    constructor
    · intro fault
      exact iff_of_false (by simp) fun parts => misfits parts.1
    · rintro _ ⟨⟩
      exact ⟨sameTag, sameOctets, readBack⟩

/-- A truth of seven is read as true, and has another octet from then on. -/
theorem parse_loses_iff_seven :
    parse .boolean [7] = .ok (.boolean true) ∧ (boolean true).toBytes ≠ [7] ∧
      parse .boolean (boolean true).toBytes = .ok (.boolean true) := by
  have read : parse .boolean [7] = .ok (.boolean true) := by decide
  obtain ⟨_, sameOctets, readBack⟩ := (parse_loses_iff .boolean [7]).2 _ read
  have loses : Loses .boolean [7] := .truth rfl (by decide)
  exact ⟨read, fun same => sameOctets.mp same loses, readBack⟩

end Value

end PrintProxy
