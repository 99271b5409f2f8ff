import PrintProxy.Attributes

/-!
# Attribute lists that octets can say

Not every attribute list has octets of its own.  A group under the end tag
would end the list, an attribute without a name would be taken for a further
value of the one before it, and the code of a tag that is not canonical belongs
to another tag.  `Attributes.WellFormed` excludes these three.
-/

namespace PrintProxy

/-- The tags of all values are canonical. -/
def Attribute.IsCanonical (attr : Attribute) : Prop :=
  ∀ tagged ∈ attr.tagged, tagged.tag.IsCanonical

instance (attr : Attribute) : Decidable attr.IsCanonical :=
  inferInstanceAs (Decidable (∀ tagged ∈ attr.tagged, tagged.tag.IsCanonical))

structure AttributeGroup.WellFormed (group : AttributeGroup) : Prop where
  onlyFirstNameless : ∀ attr ∈ group.attributes.tail, attr.name ≠ ""
  canonicalTags : ∀ attr ∈ group.attributes, attr.IsCanonical

structure Attributes.WellFormed (attributes : Attributes) : Prop where
  noEndGroup : ∀ group ∈ attributes.groups, group.tag ≠ .endOfAttributes
  onlyFirstNameless : ∀ group ∈ attributes.groups, ∀ attr ∈ group.attributes.tail,
    attr.name ≠ ""
  canonicalTags : ∀ group ∈ attributes.groups, ∀ attr ∈ group.attributes,
    ∀ tagged ∈ attr.tagged, tagged.tag.IsCanonical

theorem Attributes.wellFormed_iff {attributes : Attributes} :
    attributes.WellFormed ↔
      ∀ group ∈ attributes.groups, group.tag ≠ .endOfAttributes ∧ group.WellFormed := by
  constructor
  · intro wellFormed group member
    exact ⟨wellFormed.noEndGroup group member,
      wellFormed.onlyFirstNameless group member, wellFormed.canonicalTags group member⟩
  · intro eachGroup
    constructor
    · intro group member
      exact (eachGroup group member).1
    · intro group member
      exact (eachGroup group member).2.onlyFirstNameless
    · intro group member
      exact (eachGroup group member).2.canonicalTags

instance (group : AttributeGroup) : Decidable group.WellFormed :=
  decidable_of_iff
    ((∀ attr ∈ group.attributes.tail, attr.name ≠ "") ∧
      ∀ attr ∈ group.attributes, attr.IsCanonical)
    ⟨fun parts => ⟨parts.1, parts.2⟩,
      fun wellFormed => ⟨wellFormed.onlyFirstNameless, wellFormed.canonicalTags⟩⟩

instance (attributes : Attributes) : Decidable attributes.WellFormed :=
  decidable_of_iff _ Attributes.wellFormed_iff.symm

end PrintProxy
