import PrintProxy.Attribute
import PrintProxy.Proofs.Outcome

/-!
# Reading typed values back

A value that is written is read as itself under its own tag.  There is one
exception: octets that are kept for themselves although their tag gives octets a
meaning are read as what they mean, or not at all.
-/

namespace PrintProxy

/-- A signed word is written in four octets, which are read as the word. -/
theorem Bytes.exists_ofInt32_eq (word : Int32) :
    ∃ a b c d, Bytes.ofInt32 word = [a, b, c, d] ∧ Bytes.toInt32 [a, b, c, d] = word := by
  have readBack := Bytes.toInt32_ofInt32 word
  simp only [Bytes.ofInt32, Bytes.ofNat, List.nil_append, List.cons_append] at readBack
  exact ⟨_, _, _, _, rfl, readBack⟩

/-- An unsigned word is written in two octets, which are read as the word. -/
theorem Bytes.exists_ofUInt16_eq (word : UInt16) :
    ∃ a b, Bytes.ofUInt16 word = [a, b] ∧ Bytes.toUInt16 [a, b] = word := by
  have readBack := Bytes.toUInt16_ofUInt16 word
  simp only [Bytes.ofUInt16, Bytes.ofNat, List.nil_append, List.cons_append] at readBack
  exact ⟨_, _, rfl, readBack⟩

namespace ValueTag

/-- The tags that give octets a meaning: seven whose values are numbers, truths, moments or
nothing, and those of the ten text syntaxes. -/
def interpreted : List ValueTag :=
  [integer, enum, boolean, rangeOfInteger, resolution, dateTime, noValue,
    octetString, textWithoutLanguage, nameWithoutLanguage, charset, naturalLanguage, uri, uriScheme,
    keyword, mimeMediaType, memberAttrName]

theorem mem_interpreted_iff {tag : ValueTag} :
    tag ∈ interpreted ↔
      tag.fixedLength?.isSome ∨ tag.textSyntax?.isSome ∨ tag = .noValue := by
  cases tag <;> simp [interpreted, fixedLength?, textSyntax?]

@[simp] theorem fixedLength?_tag (kind : TextSyntax) : kind.tag.fixedLength? = none := by
  cases kind <;> rfl

@[simp] theorem textSyntax?_tag (kind : TextSyntax) : kind.tag.textSyntax? = some kind := by
  cases kind <;> rfl

end ValueTag

namespace Value

/-- Octets that are kept for themselves although their tag gives octets a meaning. -/
def Mistagged : Value → Prop
  | other tag _ => tag ∈ ValueTag.interpreted
  | _ => False

/-- Octets of a fixed number are never kept for themselves. -/
theorem parseFixed?_ne_other (tag tag' : ValueTag) (octets octets' : Bytes) :
    parseFixed? tag octets ≠ some (.other tag' octets') := by
  unfold parseFixed?
  split <;> simp

/-- Octets are kept for themselves exactly under the tags that give them no meaning. -/
theorem parse_eq_ok_other_iff {tag tag' : ValueTag} {octets octets' : Bytes} :
    parse tag octets = .ok (.other tag' octets') ↔
      tag ∉ ValueTag.interpreted ∧ tag' = tag ∧ octets' = octets := by
  rw [ValueTag.mem_interpreted_iff]
  unfold parse
  split
  · next fixed =>
      split
      · next value found =>
          have notKept : value ≠ .other tag' octets' := by
            rintro rfl
            exact parseFixed?_ne_other _ _ _ _ found
          simp [fixed, notKept]
      · simp [fixed]
  · next free =>
      split
      · next text => simp [text]
      · next noText =>
          by_cases nothing : tag = .noValue
          · simp [nothing]
          · simp [free, noText, nothing, eq_comm]

/-- The octets of a value are read as the value, unless they are kept under a tag that gives them
a meaning. -/
theorem parse_tag_toBytes_iff (value : Value) :
    parse value.tag value.toBytes = .ok value ↔ ¬value.Mistagged := by
  cases value with
  | integer number | enum number =>
      obtain ⟨a, b, c, d, written, readBack⟩ := Bytes.exists_ofInt32_eq number
      simp [Mistagged, tag, toBytes, parse, ValueTag.fixedLength?, parseFixed?, written, readBack]
  | boolean truth =>
      cases truth <;> simp [Mistagged, tag, toBytes, parse, ValueTag.fixedLength?, parseFixed?]
  | rangeOfInteger least greatest =>
      obtain ⟨a, b, c, d, written, readBack⟩ := Bytes.exists_ofInt32_eq least
      obtain ⟨a', b', c', d', written', readBack'⟩ := Bytes.exists_ofInt32_eq greatest
      simp [Mistagged, tag, toBytes, parse, ValueTag.fixedLength?, parseFixed?, written, readBack,
        written', readBack']
  | resolution crossFeed feed units =>
      obtain ⟨a, b, c, d, written, readBack⟩ := Bytes.exists_ofInt32_eq crossFeed
      obtain ⟨a', b', c', d', written', readBack'⟩ := Bytes.exists_ofInt32_eq feed
      simp [Mistagged, tag, toBytes, parse, ValueTag.fixedLength?, parseFixed?, written, readBack,
        written', readBack']
  | dateTime moment =>
      obtain ⟨a, b, written, readBack⟩ := Bytes.exists_ofUInt16_eq moment.year
      simp [Mistagged, tag, toBytes, parse, ValueTag.fixedLength?, parseFixed?, written, readBack]
  | text kind content => simp [Mistagged, tag, toBytes, parse]
  | noValue => simp [Mistagged, tag, parse, ValueTag.fixedLength?, ValueTag.textSyntax?]
  | other tag octets =>
      refine parse_eq_ok_other_iff.trans ?_
      simp [Mistagged, Value.tag, Value.toBytes]

end Value

namespace Attribute

/-- The values of an attribute are read as what they were made of, if that were any, exactly if
each of them is. -/
theorem values_ofValues_iff (name : String) (values : List Value) :
    (ofValues name values).values = .ok values ↔
      values ≠ [] ∧ ∀ value ∈ values, Value.parse value.tag value.toBytes = .ok value := by
  cases values with
  | nil =>
      rw [Attribute.values, mapM_eq_ok_iff, List.forall₂_nil_right_iff]
      simp [ofValues, ofValue, tagged]
  | cons first others =>
      have written : (ofValues name (first :: others)).tagged =
          (first :: others).map TaggedValue.ofValue := rfl
      rw [Attribute.values, mapM_eq_ok_iff, written, List.forall₂_map_left_iff, List.forall₂_same]
      simp [TaggedValue.value, TaggedValue.ofValue]

/-- An attribute made of values gives them back, in their order and under their tags, unless octets
among them are kept under a tag that gives them a meaning; that is to say, if each of them on its
own is read back. -/
theorem values_ofValues (name : String) (first : Value) (others : List Value) :
    ((ofValues name (first :: others)).values = .ok (first :: others) ↔
      ∀ value ∈ first :: others, Value.parse value.tag value.toBytes = .ok value) ∧
    ((∀ value ∈ first :: others, Value.parse value.tag value.toBytes = .ok value) ↔
      ∀ value ∈ first :: others, ¬value.Mistagged) := by
  constructor
  · rw [values_ofValues_iff]
    exact and_iff_right (List.cons_ne_nil first others)
  · exact forall₂_congr fun value _ => value.parse_tag_toBytes_iff

/-- What is kept under the tag of integers comes back as an integer. -/
example : (ofValues "copies" [.other .integer [0, 0, 0, 1]]).values = .ok [.integer 1] := by
  decide

end Attribute

end PrintProxy
