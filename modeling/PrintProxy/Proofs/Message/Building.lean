import PrintProxy.Operation.Response
import PrintProxy.Proofs.Wire.Transmissible

/-!
# Building transmissible messages

Adding an attribute that has a name to a transmissible list, and putting a
transmissible group behind it, give transmissible lists again.  A text value is
transmissible if its octets fit a length field; the other values that the proxy
writes always are.
-/

namespace PrintProxy

open Wire

section

variable {α : Type} {isMeant : α → Bool} {change : α → α} {fresh : α} {holds : α → Prop}

theorem forall_mem_changeFirst {items : List α} (before : ∀ item ∈ items, holds item)
    (freshHolds : holds fresh) (changed : ∀ item ∈ items, holds item → holds (change item)) :
    ∀ item ∈ changeFirst isMeant change fresh items, holds item := by
  induction items with
  | nil =>
      intro item member
      rw [List.mem_singleton.mp member]
      exact freshHolds
  | cons first rest ih =>
      obtain ⟨firstHolds, restHolds⟩ := List.forall_mem_cons.mp before
      obtain ⟨firstChanged, restChanged⟩ := List.forall_mem_cons.mp changed
      rw [changeFirst]
      split
      · exact List.forall_mem_cons.mpr ⟨firstChanged firstHolds, restHolds⟩
      · exact List.forall_mem_cons.mpr ⟨firstHolds, ih restHolds restChanged⟩

theorem forall_mem_tail_changeFirst {items : List α} (before : ∀ item ∈ items.tail, holds item)
    (freshHolds : holds fresh) (changed : ∀ item, holds (change item)) :
    ∀ item ∈ (changeFirst isMeant change fresh items).tail, holds item := by
  cases items with
  | nil =>
      intro item member
      cases member
  | cons first rest =>
      rw [changeFirst]
      split
      · exact before
      · exact forall_mem_changeFirst before freshHolds fun item _ _ => changed item

end

/-- The attribute may be added to a transmissible list, in whatever place. -/
structure Attribute.Addable (attr : Attribute) : Prop where
  transmissible : attr.Transmissible
  named : attr.name ≠ ""

namespace AttributeGroup

theorem transmissible_empty (tag : DelimiterTag) : (empty tag).Transmissible :=
  ⟨by simp [empty], by simp [empty]⟩

theorem Transmissible.add {group : AttributeGroup} {attr : Attribute}
    (sound : group.Transmissible) (addable : attr.Addable) : (group.add attr).Transmissible := by
  constructor
  · exact forall_mem_tail_changeFirst sound.onlyFirstNameless addable.named
      fun _ => addable.named
  · exact forall_mem_changeFirst sound.each addable.transmissible
      fun _ _ _ => addable.transmissible

theorem Transmissible.addAll {group : AttributeGroup} {attrs : List Attribute}
    (sound : group.Transmissible) (addable : ∀ attr ∈ attrs, attr.Addable) :
    (group.addAll attrs).Transmissible := by
  induction attrs generalizing group with
  | nil => exact sound
  | cons attr attrs ih =>
      obtain ⟨first, others⟩ := List.forall_mem_cons.mp addable
      exact ih (sound.add first) others

@[simp] theorem tag_addAll (group : AttributeGroup) (attrs : List Attribute) :
    (group.addAll attrs).tag = group.tag := by
  induction attrs generalizing group with
  | nil => rfl
  | cons attr attrs ih => exact ih (group.add attr)

end AttributeGroup

namespace Attributes

theorem transmissible_empty : empty.Transmissible := by
  intro group member
  cases member

theorem Transmissible.add {attributes : Attributes} {tag : DelimiterTag} {attr : Attribute}
    (sound : attributes.Transmissible) (noEnd : tag ≠ .endOfAttributes)
    (addable : attr.Addable) : (attributes.add tag attr).Transmissible := by
  apply forall_mem_changeFirst sound
  · exact ⟨noEnd, (AttributeGroup.transmissible_empty tag).add addable⟩
  · intro group _ groupSound
    exact ⟨groupSound.1, groupSound.2.add addable⟩

end Attributes

structure Value.Transmissible (value : Value) : Prop where
  canonical : value.tag.IsCanonical
  fits : value.toBytes.length ≤ greatestFieldLength

theorem TextSyntax.isCanonical_tag (kind : TextSyntax) : kind.tag.IsCanonical := by
  cases kind <;> decide

theorem Value.transmissible_text {kind : TextSyntax} {content : String}
    (fits : content.utf8ByteSize ≤ greatestFieldLength) :
    (Value.text kind content).Transmissible := by
  refine ⟨kind.isCanonical_tag, ?_⟩
  rw [Value.toBytes, length_encode]
  exact fits

theorem Value.transmissible_integer (number : Int32) : (Value.integer number).Transmissible := by
  have canonical : ValueTag.integer.IsCanonical := by decide
  exact ⟨canonical, by simp [Value.toBytes, greatestFieldLength]⟩

theorem Value.transmissible_enum (number : Int32) : (Value.enum number).Transmissible := by
  have canonical : ValueTag.enum.IsCanonical := by decide
  exact ⟨canonical, by simp [Value.toBytes, greatestFieldLength]⟩

theorem Attribute.addable_ofValue {name : String} {value : Value}
    (usable : name ≠ "" ∧ name.utf8ByteSize ≤ greatestFieldLength)
    (sound : value.Transmissible) : (Attribute.ofValue name value).Addable := by
  refine ⟨⟨?_, usable.2, ?_⟩, usable.1⟩
  · exact List.forall_mem_cons.mpr ⟨sound.canonical, by simp [Attribute.ofValue]⟩
  · exact List.forall_mem_cons.mpr ⟨sound.fits, by simp [Attribute.ofValue]⟩

theorem Attribute.addable_text {name content : String} {kind : TextSyntax}
    (usable : name ≠ "" ∧ name.utf8ByteSize ≤ greatestFieldLength)
    (fits : content.utf8ByteSize ≤ greatestFieldLength) :
    (Attribute.ofValue name (.text kind content)).Addable :=
  Attribute.addable_ofValue usable (Value.transmissible_text fits)

instance (attr : Attribute) : Decidable attr.Addable :=
  decidable_of_iff
    (attr.IsCanonical ∧ attr.name.utf8ByteSize ≤ greatestFieldLength ∧
      (∀ tagged ∈ attr.tagged, tagged.octets.length ≤ greatestFieldLength) ∧ attr.name ≠ "")
    ⟨fun parts => ⟨⟨parts.1, parts.2.1, parts.2.2.1⟩, parts.2.2.2⟩,
      fun addable => ⟨addable.transmissible.canonical, addable.transmissible.fits.name,
        addable.transmissible.fits.values, addable.named⟩⟩

theorem Attribute.addable_jobId (jobId : Int32) :
    (Attribute.ofValue AttributeName.jobId (.integer jobId)).Addable :=
  Attribute.addable_ofValue (by decide) (Value.transmissible_integer jobId)

theorem Attribute.addable_jobState (state : JobState) :
    (Attribute.ofValue AttributeName.jobState (.enum state.number)).Addable :=
  Attribute.addable_ofValue (by decide) (Value.transmissible_enum state.number)

theorem Attribute.addable_jobStateReason (reason : JobStateReason) :
    (Attribute.ofValue AttributeName.jobStateReasons (.keyword reason.keyword)).Addable := by
  cases reason <;> decide

theorem transmissible_printerDescription {printer : Uri}
    (uriFits : printer.render.utf8ByteSize ≤ greatestFieldLength)
    (nameFits : printer.printerName.utf8ByteSize ≤ greatestFieldLength) :
    (printerDescription printer).Transmissible := by
  apply (AttributeGroup.transmissible_empty _).addAll
  refine List.forall_mem_cons.mpr ⟨?_, List.forall_mem_cons.mpr ⟨?_, by decide⟩⟩
  · exact Attribute.addable_text (by decide) uriFits
  · exact Attribute.addable_text (by decide) nameFits

/-- The location quotes the printer's name. -/
theorem transmissible_printerGroup {printer : Uri}
    (uriFits : printer.render.utf8ByteSize ≤ greatestFieldLength)
    (locationFits : printer.printerName.utf8ByteSize + 11 ≤ greatestFieldLength) :
    (printerGroup printer).Transmissible := by
  apply (AttributeGroup.transmissible_empty _).addAll
  refine List.forall_mem_cons.mpr ⟨?_, List.forall_mem_cons.mpr ⟨?_,
    List.forall_mem_cons.mpr ⟨?_, by decide⟩⟩⟩
  · exact Attribute.addable_text (by decide) uriFits
  · apply Attribute.addable_text (by decide)
    exact Nat.le_trans (Nat.le_add_right _ 11) locationFits
  · apply Attribute.addable_text (by decide)
    have openingSize : "internal (".utf8ByteSize = 10 := by decide
    have closingSize : ")".utf8ByteSize = 1 := by decide
    simp only [toString, String.utf8ByteSize_append, openingSize, closingSize]
    omega

end PrintProxy
