import PrintProxy.Message

/-!
# Finding what was added

Adding writes to the first group of a delimiter, looking up reads the first
attribute of a name in any group.  So what was added is found again unless a
group ahead of the one that received it has an attribute of that name, and what
has another name is found as before.
-/

namespace PrintProxy

section

variable {α β : Type} {isMeant : α → Bool} {change : α → α} {fresh : α} {find : α → Option β}

/-- What the changed item yields is found behind all that stands ahead of it. -/
theorem findSome?_changeFirst {found : β} (freshFound : find fresh = some found)
    (changedFound : ∀ item, find (change item) = some found) (items : List α) :
    (changeFirst isMeant change fresh items).findSome? find =
      ((items.takeWhile (!isMeant ·)).findSome? find).or (some found) := by
  induction items with
  | nil => simp [changeFirst, freshFound]
  | cons first rest ih =>
      rw [changeFirst]
      cases meant : isMeant first with
      | true => simp [changedFound, meant]
      | false =>
          simp only [Bool.false_eq_true, if_false, meant, Bool.not_false, List.takeWhile_cons_of_pos,
            List.findSome?_cons, ih]
          cases find first <;> rfl

/-- A search that the change does not matter to finds what it found. -/
theorem findSome?_changeFirst_of_same (freshMissed : find fresh = none)
    (same : ∀ item, isMeant item → find (change item) = find item) (items : List α) :
    (changeFirst isMeant change fresh items).findSome? find = items.findSome? find := by
  induction items with
  | nil => simp [changeFirst, freshMissed]
  | cons first rest ih =>
      rw [changeFirst]
      split
      · next meant => rw [List.findSome?_cons, List.findSome?_cons, same first meant]
      · rw [List.findSome?_cons, List.findSome?_cons, ih]

/-- The same holds of a search that goes no further than a boundary, wherever that is. -/
theorem findSome?_takeWhile_changeFirst_of_same {isInFront : α → Bool}
    (freshMissed : find fresh = none)
    (same : ∀ item, isMeant item → find (change item) = find item)
    (kept : ∀ item, isMeant item → isInFront (change item) = isInFront item) (items : List α) :
    ((changeFirst isMeant change fresh items).takeWhile isInFront).findSome? find =
      (items.takeWhile isInFront).findSome? find := by
  induction items with
  | nil =>
      rw [changeFirst]
      cases inFront : isInFront fresh <;> simp [inFront, freshMissed]
  | cons first rest ih =>
      rw [changeFirst]
      split
      · next meant =>
          rw [List.takeWhile_cons, List.takeWhile_cons, kept first meant]
          split
          · rw [List.findSome?_cons, List.findSome?_cons, same first meant]
          · rfl
      · rw [List.takeWhile_cons, List.takeWhile_cons]
        split
        · rw [List.findSome?_cons, List.findSome?_cons, ih]
        · rfl

theorem takeWhile_changeFirst (freshMeant : isMeant fresh)
    (changedMeant : ∀ item, isMeant item → isMeant (change item)) (items : List α) :
    (changeFirst isMeant change fresh items).takeWhile (!isMeant ·) =
      items.takeWhile (!isMeant ·) := by
  induction items with
  | nil => simp [changeFirst, freshMeant]
  | cons first rest ih =>
      rw [changeFirst]
      split
      · next meant => simp [meant, changedMeant first meant]
      · next other => simp [other, ih]

end

namespace AttributeGroup

variable {group : AttributeGroup} {attr : Attribute} {name : String}

theorem get?_eq_none_iff : group.get? name = none ↔ ∀ attr ∈ group.attributes, attr.name ≠ name := by
  simp [get?]

@[simp] theorem get?_add_self (group : AttributeGroup) (attr : Attribute) :
    (group.add attr).get? attr.name = some attr := by
  have own : Option.guard (·.name == attr.name) attr = some attr := by simp
  have nothingAhead :
      (group.attributes.takeWhile (!·.name == attr.name)).findSome?
        (Option.guard (·.name == attr.name)) = none := by
    apply List.findSome?_eq_none_iff.mpr
    intro other ahead
    simpa using List.all_eq_true.mp List.all_takeWhile other ahead
  rw [get?, List.find?_eq_findSome?_guard, add, findSome?_changeFirst own fun _ => own,
    nothingAhead]
  rfl

theorem get?_add_of_ne (other : attr.name ≠ name) :
    (group.add attr).get? name = group.get? name := by
  have missed : Option.guard (·.name == name) attr = none := by simpa using other
  simp only [get?, List.find?_eq_findSome?_guard, add]
  apply findSome?_changeFirst_of_same missed
  intro replaced sameName
  rw [missed, eq_comm]
  simpa [beq_iff_eq.mp sameName] using other

theorem get?_addAll_of_ne {attrs : List Attribute} (others : ∀ attr ∈ attrs, attr.name ≠ name) :
    (group.addAll attrs).get? name = group.get? name := by
  induction attrs generalizing group with
  | nil => rfl
  | cons attr attrs ih =>
      obtain ⟨first, rest⟩ := List.forall_mem_cons.mp others
      exact (ih rest).trans (get?_add_of_ne first)

/-- What is added last under a name is found. -/
theorem get?_addAll_append {later : List Attribute} (earlier : List Attribute) (attr : Attribute)
    (others : ∀ other ∈ later, other.name ≠ attr.name) :
    (group.addAll (earlier ++ attr :: later)).get? attr.name = some attr := by
  rw [addAll, List.foldl_append, List.foldl_cons, ← addAll, get?_addAll_of_ne others]
  exact get?_add_self _ attr

end AttributeGroup

namespace Attributes

variable {attributes : Attributes} {tag : DelimiterTag} {attr : Attribute} {name : String}

/-- The groups ahead of the one that receives what is added under a delimiter. -/
def ahead (attributes : Attributes) (tag : DelimiterTag) : List AttributeGroup :=
  attributes.groups.takeWhile (!·.tag == tag)

theorem get?_eq (attributes : Attributes) (name : String) :
    attributes.get? name = attributes.groups.findSome? (·.get? name) :=
  List.find?_flatMap

theorem get?_eq_of_ahead (found : (attributes.ahead tag).findSome? (·.get? name) = some attr) :
    attributes.get? name = some attr := by
  have parts : attributes.ahead tag ++ attributes.groups.dropWhile (!·.tag == tag) =
      attributes.groups := List.takeWhile_append_dropWhile
  rw [get?_eq, ← parts, List.findSome?_append, found]
  rfl

@[simp] theorem ahead_add_self (attributes : Attributes) (tag : DelimiterTag) (attr : Attribute) :
    (attributes.add tag attr).ahead tag = attributes.ahead tag := by
  apply takeWhile_changeFirst
  · simp [AttributeGroup.add, AttributeGroup.empty]
  · intro group sameTag
    exact sameTag

theorem get?_add_self (attributes : Attributes) (tag : DelimiterTag) (attr : Attribute) :
    (attributes.add tag attr).get? attr.name =
      ((attributes.ahead tag).findSome? (·.get? attr.name)).or (some attr) := by
  rw [get?_eq]
  apply findSome?_changeFirst
  · exact AttributeGroup.get?_add_self _ attr
  · intro group
    exact group.get?_add_self attr

theorem get?_add_of_ne (other : attr.name ≠ name) :
    (attributes.add tag attr).get? name = attributes.get? name := by
  rw [get?_eq, get?_eq]
  apply findSome?_changeFirst_of_same
  · exact AttributeGroup.get?_add_of_ne other
  · intro group _
    exact AttributeGroup.get?_add_of_ne other

theorem findSome?_ahead_add_of_ne (other : attr.name ≠ name) (tag boundary : DelimiterTag) :
    ((attributes.add tag attr).ahead boundary).findSome? (·.get? name) =
      (attributes.ahead boundary).findSome? (·.get? name) := by
  apply findSome?_takeWhile_changeFirst_of_same
  · exact AttributeGroup.get?_add_of_ne other
  · intro group _
    exact AttributeGroup.get?_add_of_ne other
  · intro group _
    rfl

/-- A group ahead of the one that receives what is added under a delimiter has a name already. -/
def NamesAhead (attributes : Attributes) (tag : DelimiterTag) (name : String) : Prop :=
  ∃ group ∈ attributes.ahead tag, ∃ attr ∈ group.attributes, attr.name = name

instance (attributes : Attributes) (tag : DelimiterTag) (name : String) :
    Decidable (attributes.NamesAhead tag name) :=
  inferInstanceAs (Decidable (∃ group ∈ _, ∃ attr ∈ _, _))

theorem not_namesAhead_iff :
    ¬attributes.NamesAhead tag name ↔ ∀ group ∈ attributes.ahead tag, group.get? name = none := by
  simp only [NamesAhead, AttributeGroup.get?_eq_none_iff, not_exists, not_and]

/-- What is named ahead already stays what is found. -/
theorem get?_add_of_namesAhead (named : attributes.NamesAhead tag attr.name) :
    (attributes.add tag attr).get? attr.name = attributes.get? attr.name := by
  have isFound : (attributes.ahead tag).findSome? (·.get? attr.name) ≠ none := by
    intro missed
    exact not_namesAhead_iff.mpr (List.findSome?_eq_none_iff.mp missed) named
  obtain ⟨first, found⟩ := Option.ne_none_iff_exists'.mp isFound
  rw [get?_eq_of_ahead found]
  apply get?_eq_of_ahead
  rw [ahead_add_self]
  exact found

theorem get?_add_of_not_namesAhead (room : ¬attributes.NamesAhead tag attr.name) :
    (attributes.add tag attr).get? attr.name = some attr := by
  rw [get?_add_self, List.findSome?_eq_none_iff.mpr (not_namesAhead_iff.mp room)]
  rfl

/-- An attribute equal to the added one is found exactly if its name is not taken ahead, or if an
equal one is found before it is added. -/
theorem get?_add_eq_self_iff (attributes : Attributes) (tag : DelimiterTag) (attr : Attribute) :
    (attributes.add tag attr).get? attr.name = some attr ↔
      ¬attributes.NamesAhead tag attr.name ∨ attributes.get? attr.name = some attr := by
  by_cases named : attributes.NamesAhead tag attr.name
  · rw [get?_add_of_namesAhead named]
    simp only [named, not_true, false_or]
  · simp only [get?_add_of_not_namesAhead named, named, not_false_eq_true, true_or]

end Attributes

end PrintProxy
