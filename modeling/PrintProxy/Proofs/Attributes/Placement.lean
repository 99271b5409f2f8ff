import Mathlib.Data.List.TakeWhile
import PrintProxy.Proofs.Attributes.Lookup

/-!
# Where what is added stands

Adding writes to one place of a list: in the first group of the delimiter, or in
a new one behind all, and there in the place of the first attribute of the name,
or behind all.  Every other place keeps what it holds.

The place tells an added attribute from an equal one elsewhere.  If an equal one
stands in a group ahead, looking up the name gives that one, although the name
is taken.
-/

namespace PrintProxy

section

variable {α β : Type} {isMeant : α → Bool} {change : α → α} {fresh : α}

/-- Only the place of the first meant item holds something else, or the place behind all. -/
theorem getElem?_changeFirst (items : List α) (place : Nat) :
    (changeFirst isMeant change fresh items)[place]? =
      if place = items.findIdx isMeant then some ((items[place]?.map change).getD fresh)
      else items[place]? := by
  induction items generalizing place with
  | nil => cases place <;> simp [changeFirst]
  | cons first rest ih =>
      rw [changeFirst]
      cases meant : isMeant first with
      | true => cases place <;> simp [List.findIdx_cons, meant]
      | false => cases place <;> simp [List.findIdx_cons, meant, ih]

theorem changeFirst_eq (items : List α) :
    changeFirst isMeant change fresh items =
      items.takeWhile (!isMeant ·) ++
        ((items.find? isMeant).map change).getD fresh ::
          (items.dropWhile (!isMeant ·)).tail := by
  induction items with
  | nil => rfl
  | cons first rest ih =>
      rw [changeFirst]
      cases meant : isMeant first with
      | true => simp [meant]
      | false => simp [meant, ih]

/-- What is the same about the changed item and the former one is listed as before, unless the item
is new. -/
theorem map_changeFirst {key : α → β} (kept : ∀ item, isMeant item → key (change item) = key item)
    (items : List α) :
    (changeFirst isMeant change fresh items).map key =
      if items.any isMeant then items.map key else items.map key ++ [key fresh] := by
  induction items with
  | nil => rfl
  | cons first rest ih =>
      rw [changeFirst]
      cases meant : isMeant first with
      | true => simp [meant, kept first meant]
      | false =>
          simp only [Bool.false_eq_true, if_false, List.map_cons, ih, List.any_cons, meant,
            Bool.false_or]
          split <;> rfl

theorem findIdx_changeFirst (freshMeant : isMeant fresh)
    (changedMeant : ∀ item, isMeant item → isMeant (change item)) (items : List α) :
    (changeFirst isMeant change fresh items).findIdx isMeant = items.findIdx isMeant := by
  induction items with
  | nil => simp [changeFirst, List.findIdx_cons, freshMeant]
  | cons first rest ih =>
      rw [changeFirst]
      cases meant : isMeant first with
      | true => simp [List.findIdx_cons, meant, changedMeant first meant]
      | false => simp [List.findIdx_cons, meant, ih]

theorem changeFirst_changeFirst (freshMeant : isMeant fresh)
    (changedMeant : ∀ item, isMeant item → isMeant (change item)) (again : change fresh = fresh)
    (twice : ∀ item, isMeant item → change (change item) = change item) (items : List α) :
    changeFirst isMeant change fresh (changeFirst isMeant change fresh items) =
      changeFirst isMeant change fresh items := by
  induction items with
  | nil => simp [changeFirst, freshMeant, again]
  | cons first rest ih =>
      rw [changeFirst]
      split
      · next meant => simp [changeFirst, changedMeant first meant, twice first meant]
      · next other => simp [changeFirst, other, ih]

/-- A search finds what its first hit yields. -/
theorem findSome?_eq_bind_getElem? (find : α → Option β) (items : List α) :
    items.findSome? find = items[items.findIdx fun item => (find item).isSome]?.bind find := by
  induction items with
  | nil => rfl
  | cons first rest ih =>
      rw [List.findSome?_cons]
      cases found : find first with
      | some result => simp [List.findIdx_cons, found]
      | none => simp [List.findIdx_cons, found, ih]

theorem findIdx_eq_length_takeWhile (items : List α) :
    items.findIdx isMeant = (items.takeWhile (!isMeant ·)).length := by
  induction items with
  | nil => rfl
  | cons first rest ih =>
      cases meant : isMeant first with
      | true => simp [List.findIdx_cons, meant]
      | false => simp [List.findIdx_cons, meant, ih]

end

namespace AttributeGroup

variable {group : AttributeGroup} {attr : Attribute} {name : String}

/-- An added attribute takes the place of the first one of its name, or a new one behind all. -/
theorem getElem?_add (group : AttributeGroup) (attr : Attribute) (place : Nat) :
    (group.add attr).attributes[place]? =
      if place = group.attributes.findIdx (·.name == attr.name) then some attr
      else group.attributes[place]? := by
  rw [add, getElem?_changeFirst]
  split
  · cases group.attributes[place]? <;> rfl
  · rfl

theorem findIdx_add (group : AttributeGroup) (attr : Attribute) :
    (group.add attr).attributes.findIdx (·.name == attr.name) =
      group.attributes.findIdx (·.name == attr.name) := by
  apply findIdx_changeFirst
  · exact beq_self_eq_true attr.name
  · intro _ _
    exact beq_self_eq_true attr.name

theorem get?_eq_none_iff_not_mem :
    group.get? name = none ↔ name ∉ group.attributes.map (·.name) := by
  simp [get?_eq_none_iff]

/-- The names of a group are listed as before, unless the added one is new. -/
theorem map_name_add (group : AttributeGroup) (attr : Attribute) :
    (group.add attr).attributes.map (·.name) =
      if attr.name ∈ group.attributes.map (·.name) then group.attributes.map (·.name)
      else group.attributes.map (·.name) ++ [attr.name] := by
  rw [add, map_changeFirst]
  · simp
  · intro replaced sameName
    exact (beq_iff_eq.mp sameName).symm

theorem length_attributes_add (group : AttributeGroup) (attr : Attribute) :
    (group.add attr).attributes.length =
      if group.get? attr.name = none then group.attributes.length + 1
      else group.attributes.length := by
  rw [← List.length_map (·.name), map_name_add]
  simp only [get?_eq_none_iff_not_mem]
  split
  · rw [List.length_map]
  · rw [List.length_append, List.length_map, List.length_singleton]

theorem add_add (group : AttributeGroup) (attr : Attribute) :
    (group.add attr).add attr = group.add attr := by
  simp only [add]
  rw [changeFirst_changeFirst]
  · exact beq_self_eq_true attr.name
  · intro _ _
    exact beq_self_eq_true attr.name
  · rfl
  · intro _ _
    rfl

end AttributeGroup

/-- Where an attribute stands in a list: its group, and its place in the group. -/
structure Place where
  group : Nat
  position : Nat
deriving DecidableEq, Repr

namespace Attributes

/-- The group that receives what is added under a delimiter, as it is before. -/
def receiver (attributes : Attributes) (tag : DelimiterTag) : AttributeGroup :=
  (attributes.groups.find? (·.tag == tag)).getD (.empty tag)

/-- The groups behind the one that receives what is added under a delimiter. -/
def behind (attributes : Attributes) (tag : DelimiterTag) : List AttributeGroup :=
  (attributes.groups.dropWhile (!·.tag == tag)).tail

def at? (attributes : Attributes) (place : Place) : Option Attribute :=
  attributes.groups[place.group]?.bind (·.attributes[place.position]?)

/-- The place where the attribute stands that is found under a name. -/
def place? (attributes : Attributes) (name : String) : Option Place :=
  let holder := attributes.groups.findIdx fun group => (group.get? name).isSome
  attributes.groups[holder]?.map fun group =>
    ⟨holder, group.attributes.findIdx (·.name == name)⟩

/-- The place that receives an attribute of a name that is added under a delimiter. -/
def receivingPlace (attributes : Attributes) (tag : DelimiterTag) (name : String) : Place :=
  ⟨attributes.groups.findIdx (·.tag == tag),
    (attributes.receiver tag).attributes.findIdx (·.name == name)⟩

variable {attributes : Attributes} {tag : DelimiterTag} {attr : Attribute} {name : String}

/-- What is found under a name is what stands at the place that is found. -/
theorem get?_eq_bind_place? (attributes : Attributes) (name : String) :
    attributes.get? name = (attributes.place? name).bind attributes.at? := by
  rw [get?_eq, findSome?_eq_bind_getElem?, place?]
  cases found : attributes.groups[attributes.groups.findIdx fun group =>
      (group.get? name).isSome]? with
  | none => rfl
  | some group =>
      simp only [Option.map_some, Option.bind_some, at?, found]
      exact List.find?_eq_getElem?_findIdx

theorem groups_add (attributes : Attributes) (tag : DelimiterTag) (attr : Attribute) :
    (attributes.add tag attr).groups =
      attributes.ahead tag ++ (attributes.receiver tag).add attr :: attributes.behind tag := by
  rw [add, changeFirst_eq, receiver]
  cases attributes.groups.find? (·.tag == tag) <;> rfl

/-- The receiving group stands between the others, or is new behind all of them. -/
theorem groups_eq (attributes : Attributes) (tag : DelimiterTag) :
    attributes.groups = attributes.ahead tag ++ attributes.receiver tag :: attributes.behind tag ∨
      attributes.groups = attributes.ahead tag ∧ attributes.receiver tag = .empty tag ∧
        attributes.behind tag = [] := by
  have parts : attributes.ahead tag ++ attributes.groups.dropWhile (!·.tag == tag) =
      attributes.groups := List.takeWhile_append_dropWhile
  have isFirst := List.find?_eq_head?_dropWhile_not (·.tag == tag) attributes.groups
  unfold receiver behind
  rw [isFirst]
  cases rest : attributes.groups.dropWhile (!·.tag == tag) with
  | nil =>
      rw [rest, List.append_nil] at parts
      exact .inr ⟨parts.symm, rfl, rfl⟩
  | cons own others =>
      rw [rest] at parts
      exact .inl parts.symm

/-- All attributes, cut where the receiving group begins and where it ends. -/
theorem all_eq (attributes : Attributes) (tag : DelimiterTag) :
    attributes.all = (attributes.ahead tag).flatMap (·.attributes) ++
      ((attributes.receiver tag).attributes ++ (attributes.behind tag).flatMap (·.attributes)) := by
  rcases attributes.groups_eq tag with parts | ⟨parts, isNew, none⟩
  · rw [all, parts, List.flatMap_append, List.flatMap_cons]
  · rw [all, parts, isNew, none]
    exact (List.append_nil _).symm

theorem size_add (attributes : Attributes) (tag : DelimiterTag) (attr : Attribute) :
    (attributes.add tag attr).size =
      if (attributes.receiver tag).get? attr.name = none then attributes.size + 1
      else attributes.size := by
  have grown := (attributes.receiver tag).length_attributes_add attr
  have before : attributes.size = _ := congrArg List.length (attributes.all_eq tag)
  rw [before, size, all, groups_add, List.flatMap_append, List.flatMap_cons]
  simp only [List.length_append, grown]
  split <;> omega

theorem getElem?_groups_add (attributes : Attributes) (tag : DelimiterTag) (attr : Attribute)
    (place : Nat) :
    (attributes.add tag attr).groups[place]? =
      if place = attributes.groups.findIdx (·.tag == tag) then
        some ((attributes.receiver tag).add attr)
      else attributes.groups[place]? := by
  rw [add, getElem?_changeFirst]
  split
  · next same =>
      rw [receiver, List.find?_eq_getElem?_findIdx, ← same]
      cases attributes.groups[place]? <;> rfl
  · rfl

/-- Only the receiving place holds something else. -/
theorem at?_add (attributes : Attributes) (tag : DelimiterTag) (attr : Attribute) (place : Place) :
    (attributes.add tag attr).at? place =
      if place = attributes.receivingPlace tag attr.name then some attr
      else attributes.at? place := by
  obtain ⟨group, position⟩ := place
  have receiverAt : attributes.at? ⟨attributes.groups.findIdx (·.tag == tag), position⟩ =
      (attributes.receiver tag).attributes[position]? := by
    rw [at?, receiver, List.find?_eq_getElem?_findIdx]
    cases attributes.groups[attributes.groups.findIdx (·.tag == tag)]? <;> rfl
  rw [at?, getElem?_groups_add]
  by_cases same : group = attributes.groups.findIdx (·.tag == tag)
  · subst same
    simp only [if_true, Option.bind_some, AttributeGroup.getElem?_add, receivingPlace,
      Place.mk.injEq, true_and, receiverAt]
  · simp [same, receivingPlace, at?]

theorem map_tag_add (attributes : Attributes) (tag : DelimiterTag) (attr : Attribute) :
    (attributes.add tag attr).groups.map (·.tag) =
      if tag ∈ attributes.groups.map (·.tag) then attributes.groups.map (·.tag)
      else attributes.groups.map (·.tag) ++ [tag] := by
  have sameTag (group : AttributeGroup) : (group.add attr).tag = group.tag := rfl
  rw [add, map_changeFirst fun group _ => sameTag group]
  simp [sameTag, AttributeGroup.empty]

theorem add_add (attributes : Attributes) (tag : DelimiterTag) (attr : Attribute) :
    (attributes.add tag attr).add tag attr = attributes.add tag attr := by
  simp only [add]
  rw [changeFirst_changeFirst]
  · exact beq_self_eq_true tag
  · intro _ sameTag
    exact sameTag
  · exact AttributeGroup.add_add _ attr
  · intro group _
    exact group.add_add attr

/-- Adds attributes in turn to the first group of a delimiter. -/
def addAll (attributes : Attributes) (tag : DelimiterTag) (attrs : List Attribute) : Attributes :=
  attrs.foldl (·.add tag ·) attributes

theorem addAll_append (attributes : Attributes) (tag : DelimiterTag)
    (attrs others : List Attribute) :
    attributes.addAll tag (attrs ++ others) = (attributes.addAll tag attrs).addAll tag others :=
  List.foldl_append

theorem get?_addAll_of_ne {attrs : List Attribute} (others : ∀ attr ∈ attrs, attr.name ≠ name)
    (attributes : Attributes) (tag : DelimiterTag) :
    (attributes.addAll tag attrs).get? name = attributes.get? name := by
  induction attrs generalizing attributes with
  | nil => rfl
  | cons attr attrs ih =>
      obtain ⟨first, rest⟩ := List.forall_mem_cons.mp others
      exact (ih rest (attributes.add tag attr)).trans (get?_add_of_ne first)

@[simp] theorem ahead_addAll (attributes : Attributes) (tag : DelimiterTag)
    (attrs : List Attribute) : (attributes.addAll tag attrs).ahead tag = attributes.ahead tag := by
  induction attrs generalizing attributes with
  | nil => rfl
  | cons attr attrs ih => exact (ih (attributes.add tag attr)).trans (ahead_add_self _ _ _)

theorem findIdx_tag_add (attributes : Attributes) (tag : DelimiterTag) (attr : Attribute) :
    (attributes.add tag attr).groups.findIdx (·.tag == tag) =
      attributes.groups.findIdx (·.tag == tag) := by
  apply findIdx_changeFirst
  · exact beq_self_eq_true tag
  · intro group sameTag
    exact sameTag

theorem receiver_add (attributes : Attributes) (tag : DelimiterTag) (attr : Attribute) :
    (attributes.add tag attr).receiver tag = (attributes.receiver tag).add attr := by
  rw [receiver, List.find?_eq_getElem?_findIdx, findIdx_tag_add, getElem?_groups_add, if_pos rfl,
    Option.getD_some]

/-- Whatever is added under one delimiter goes to one group. -/
theorem getElem?_groups_addAll {attrs : List Attribute} (notEmpty : attrs ≠ [])
    (attributes : Attributes) (tag : DelimiterTag) (place : Nat) :
    (attributes.addAll tag attrs).groups[place]? =
      if place = attributes.groups.findIdx (·.tag == tag) then
        some ((attributes.receiver tag).addAll attrs)
      else attributes.groups[place]? := by
  induction attrs generalizing attributes with
  | nil => exact absurd rfl notEmpty
  | cons attr attrs ih =>
      cases attrs with
      | nil => exact getElem?_groups_add attributes tag attr place
      | cons next rest =>
          have later := ih (List.cons_ne_nil next rest) (attributes.add tag attr)
          rw [findIdx_tag_add, receiver_add, getElem?_groups_add] at later
          refine later.trans ?_
          split <;> rfl

/-- The added attribute is the one that is found, exactly if no group ahead has one of its name: such
a group would be the holder that is found first. -/
theorem place?_add_self_iff (attributes : Attributes) (tag : DelimiterTag) (attr : Attribute) :
    (attributes.add tag attr).place? attr.name = some (attributes.receivingPlace tag attr.name) ↔
      ¬attributes.NamesAhead tag attr.name := by
  rw [not_namesAhead_iff]
  have own : attributes.groups.findIdx (·.tag == tag) = (attributes.ahead tag).length :=
    findIdx_eq_length_takeWhile attributes.groups
  rw [place?, groups_add, List.findIdx_append]
  constructor
  · intro same group isAhead
    by_contra known
    have holderAhead : ((attributes.ahead tag).findIdx fun group =>
        (group.get? attr.name).isSome) < (attributes.ahead tag).length :=
      List.findIdx_lt_length.mpr ⟨group, isAhead, Option.isSome_iff_ne_none.mpr known⟩
    rw [if_pos holderAhead] at same
    obtain ⟨_, _, samePlace⟩ := Option.map_eq_some_iff.mp same
    have sameGroup := congrArg Place.group samePlace
    rw [receivingPlace, own] at sameGroup
    exact absurd sameGroup (Nat.ne_of_lt holderAhead)
  · intro room
    have noneAhead : ((attributes.ahead tag).findIdx fun group =>
        (group.get? attr.name).isSome) = (attributes.ahead tag).length := by
      apply List.findIdx_eq_length_of_false
      intro group isAhead
      rw [room group isAhead, Option.isSome_none]
    simp [noneAhead, List.findIdx_cons, receivingPlace, own, AttributeGroup.findIdx_add]

/-- What becomes of a list when an attribute is added to it under a delimiter. -/
structure Receives (before : Attributes) (tag : DelimiterTag) (attr : Attribute)
    (after : Attributes) : Prop where
  /-- Of equal attributes none is told from another here. -/
  found_iff : after.get? attr.name = some attr ↔
    ¬before.NamesAhead tag attr.name ∨ before.get? attr.name = some attr
  /-- The added attribute itself, by its place, is the one that is found. -/
  isFound_iff : after.place? attr.name = some (before.receivingPlace tag attr.name) ↔
    ¬before.NamesAhead tag attr.name
  hidden : before.NamesAhead tag attr.name → after.get? attr.name = before.get? attr.name
  others : ∀ name, name ≠ attr.name → after.get? name = before.get? name
  size : after.size =
    if (before.receiver tag).get? attr.name = none then before.size + 1 else before.size
  received : after.at? (before.receivingPlace tag attr.name) = some attr
  /-- Every other place holds what it held. -/
  kept : ∀ place, place ≠ before.receivingPlace tag attr.name → after.at? place = before.at? place
  tags : after.groups.map (·.tag) =
    if tag ∈ before.groups.map (·.tag) then before.groups.map (·.tag)
    else before.groups.map (·.tag) ++ [tag]
  /-- Adding the attribute again changes nothing. -/
  again : after.add tag attr = after

theorem receives_add (attributes : Attributes) (tag : DelimiterTag) (attr : Attribute) :
    attributes.Receives tag attr (attributes.add tag attr) where
  found_iff := get?_add_eq_self_iff attributes tag attr
  isFound_iff := place?_add_self_iff attributes tag attr
  hidden := get?_add_of_namesAhead
  others _ other := get?_add_of_ne other.symm
  size := size_add attributes tag attr
  received := by rw [at?_add, if_pos rfl]
  kept place other := by rw [at?_add, if_neg other]
  tags := map_tag_add attributes tag attr
  again := add_add attributes tag attr

end Attributes

end PrintProxy
