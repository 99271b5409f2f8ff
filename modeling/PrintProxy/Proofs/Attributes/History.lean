import Mathlib.Data.List.Induction
import Mathlib.Data.List.Nodup
import PrintProxy.Proofs.Attributes.Placement

/-!
# Lists that were built by adding and removing

A list that was built from nothing by adding attributes to it and by removing
attributes from its groups is an ordered map: its groups stand in the order in
which their delimiters were first used, and a group holds, under every name, what
was added last since the name was last removed, in the order of the first of
these additions.  No delimiter and no name within a group occurs twice, which a
list that was decoded does not promise.
-/

namespace PrintProxy

section

variable {α β : Type} [BEq α] [LawfulBEq α]

theorem eraseDups_concat (items : List α) (item : α) [Decidable (item ∈ items)] :
    (items ++ [item]).eraseDups =
      if item ∈ items then items.eraseDups else items.eraseDups ++ [item] := by
  rw [List.eraseDups_append]
  split
  · next known => simp [List.removeAll, known]
  · next new => simp [List.removeAll, new, List.eraseDups_cons]

theorem nodup_eraseDups (items : List α) : items.eraseDups.Nodup := by
  classical
  induction items using List.reverseRecOn with
  | nil => exact List.nodup_nil
  | append_singleton items item ih =>
      rw [eraseDups_concat]
      split
      · exact ih
      · next new =>
          rw [← List.concat_eq_append]
          exact List.Nodup.concat (mt List.mem_eraseDups.mp new) ih

theorem eraseDups_filter (keep : α → Bool) (items : List α) :
    (items.filter keep).eraseDups = items.eraseDups.filter keep := by
  classical
  induction items using List.reverseRecOn with
  | nil => rfl
  | append_singleton items item ih =>
      rw [List.filter_append, eraseDups_concat]
      by_cases kept : keep item
      · rw [List.filter_cons_of_pos kept, List.filter_nil, eraseDups_concat, ih]
        simp only [List.mem_filter, kept, and_true]
        split
        · rfl
        · rw [List.filter_append, List.filter_cons_of_pos kept, List.filter_nil]
      · rw [List.filter_cons_of_neg kept, List.filter_nil, List.append_nil, ih]
        split
        · rfl
        · rw [List.filter_append, List.filter_cons_of_neg kept, List.filter_nil, List.append_nil]

/-- Where no key occurs twice, the first item with a key is all there is of the key. -/
theorem eraseP_eq_filter_of_nodup {key : β → α} {items : List β} (distinct : (items.map key).Nodup)
    (wanted : α) : items.eraseP (key · == wanted) = items.filter (key · != wanted) := by
  induction items with
  | nil => rfl
  | cons first rest ih =>
      obtain ⟨firstOnly, restDistinct⟩ := List.nodup_cons.mp distinct
      by_cases same : key first = wanted
      · have othersKept : rest.filter (key · != wanted) = rest := by
          apply List.filter_eq_self.mpr
          intro other member
          rw [bne_iff_ne, ← same]
          intro sameKey
          exact firstOnly (sameKey ▸ List.mem_map_of_mem member)
        rw [List.eraseP_cons_of_pos (by simpa using same), List.filter_cons_of_neg (by simp [same]),
          othersKept]
      · rw [List.eraseP_cons_of_neg (by simpa using same), List.filter_cons_of_pos (by simp [same]),
          ih restDistinct]

end

namespace AttributeGroup

variable {group : AttributeGroup} {adds : List Attribute} {name : String}

/-- What is taken out is what is found. -/
theorem extract_fst (group : AttributeGroup) (name : String) :
    (group.extract name).1 = group.get? name := by
  rw [get?, List.find?_eq_getElem?_findIdx, extract]
  split
  · next position found => rw [(List.findIdx?_eq_some_iff_findIdx_eq.mp found).2]
  · next missed =>
      rw [List.findIdx?_eq_none_iff_findIdx_eq.mp missed]
      exact (List.getElem?_eq_none (Nat.le_refl _)).symm

theorem extract_of_absent (absent : group.get? name = none) :
    group.extract name = (none, group) := by
  have missed : group.attributes.findIdx? (·.name == name) = none := by
    apply List.findIdx?_eq_none_iff.mpr
    intro attr member
    simpa using get?_eq_none_iff.mp absent attr member
  rw [extract, missed]

theorem attributes_remove (group : AttributeGroup) (name : String) :
    (group.remove name).attributes = group.attributes.eraseP (·.name == name) := by
  rw [remove, extract, List.eraseP_eq_eraseIdx]
  split
  · next found => rw [found]
  · next missed => rw [missed]

@[simp] theorem tag_remove (group : AttributeGroup) (name : String) :
    (group.remove name).tag = group.tag := by
  rw [remove, extract]
  split <;> rfl

/-- The group is an ordered map of attributes that were added: under every name it has the last one,
in the order in which the names came first. -/
structure Reflects (group : AttributeGroup) (adds : List Attribute) : Prop where
  names : group.attributes.map (·.name) = (adds.map (·.name)).eraseDups
  get? : ∀ name, group.get? name = (adds.filter (·.name == name)).getLast?

theorem Reflects.distinct (reflects : group.Reflects adds) :
    (group.attributes.map (·.name)).Nodup := by
  rw [reflects.names]
  exact nodup_eraseDups _

theorem reflects_empty (tag : DelimiterTag) : (empty tag).Reflects [] where
  names := rfl
  get? _ := rfl

theorem Reflects.add (reflects : group.Reflects adds) (attr : Attribute) :
    (group.add attr).Reflects (adds ++ [attr]) where
  names := by
    rw [map_name_add, List.map_append, List.map_singleton, eraseDups_concat, reflects.names]
    simp only [List.mem_eraseDups]
  get? name := by
    rw [List.filter_append]
    by_cases same : attr.name = name
    · subst same
      rw [get?_add_self, List.filter_cons_of_pos (by simp), List.filter_nil, List.getLast?_concat]
    · rw [get?_add_of_ne same, List.filter_cons_of_neg (by simpa using same), List.filter_nil,
        List.append_nil]
      exact reflects.get? name

theorem Reflects.remove (reflects : group.Reflects adds) (name : String) :
    (group.remove name).Reflects (adds.filter (·.name != name)) := by
  have left : (group.remove name).attributes = group.attributes.filter (·.name != name) := by
    rw [attributes_remove, eraseP_eq_filter_of_nodup reflects.distinct]
  constructor
  · have commutes (attrs : List Attribute) : (attrs.filter (·.name != name)).map (·.name) =
        (attrs.map (·.name)).filter (· != name) := by
      rw [List.filter_map]
      rfl
    rw [left, commutes, commutes, eraseDups_filter, reflects.names]
  · intro wanted
    have before := reflects.get? wanted
    rw [AttributeGroup.get?, ← List.head?_filter] at before ⊢
    rw [left, List.filter_filter, List.filter_filter]
    by_cases same : wanted = name
    · have none (attr : Attribute) : (attr.name == wanted && attr.name != name) = false := by
        rw [same, bne, Bool.and_not_self]
      simp only [none, List.filter_false, List.head?_nil, List.getLast?_nil]
    · have others (attr : Attribute) :
          (attr.name == wanted && attr.name != name) = (attr.name == wanted) := by
        by_cases isWanted : attr.name = wanted
        · simp [isWanted, same]
        · simp [isWanted]
      simp only [others, before]

end AttributeGroup

namespace Attributes

/-- What is done to a list. -/
inductive Edit where
  | add (tag : DelimiterTag) (attr : Attribute)
  /-- Removes a name from the group at a place. -/
  | remove (place : Nat) (name : String)
deriving DecidableEq, Repr

/-- The delimiter that an addition uses. -/
def Edit.tag? : Edit → Option DelimiterTag
  | add tag _ => some tag
  | remove _ _ => none

def edit (attributes : Attributes) : Edit → Attributes
  | .add tag attr => attributes.add tag attr
  | .remove place name => ⟨attributes.groups.modify place (·.remove name)⟩

/-- The list that edits make of nothing. -/
def built (edits : List Edit) : Attributes := edits.foldl edit empty

/-- The attributes that were added under a delimiter and whose names were not removed later from the
group at a place. -/
def surviving (place : Nat) (tag : DelimiterTag) : List Edit → List Attribute
  | [] => []
  | .add own attr :: later =>
      if own = tag ∧ .remove place attr.name ∉ later then attr :: surviving place tag later
      else surviving place tag later
  | .remove _ _ :: later => surviving place tag later

variable {attributes : Attributes} {edits : List Edit} {tag : DelimiterTag}

theorem surviving_concat_add (place : Nat) (tag own : DelimiterTag) (attr : Attribute)
    (edits : List Edit) :
    surviving place tag (edits ++ [.add own attr]) =
      surviving place tag edits ++ if own = tag then [attr] else [] := by
  induction edits with
  | nil => simp [surviving]
  | cons first later ih =>
      cases first with
      | remove _ _ => exact ih
      | add _ earlier =>
          simp only [List.cons_append, surviving, List.mem_append, List.mem_singleton,
            reduceCtorEq, or_false, ih]
          split <;> rfl

theorem surviving_concat_remove (place other : Nat) (tag : DelimiterTag) (name : String)
    (edits : List Edit) :
    surviving place tag (edits ++ [.remove other name]) =
      (surviving place tag edits).filter fun attr => !(other == place && attr.name == name) := by
  induction edits with
  | nil => rfl
  | cons first later ih =>
      cases first with
      | remove _ _ => exact ih
      | add own earlier =>
          simp only [List.cons_append, surviving, List.mem_append, List.mem_singleton,
            Edit.remove.injEq, ih]
          have isKept : own = tag ∧ ¬(.remove place earlier.name ∈ later ∨
                place = other ∧ earlier.name = name) ↔
              (own = tag ∧ .remove place earlier.name ∉ later) ∧
                (!(other == place && earlier.name == name)) = true := by
            grind
          rw [if_congr isKept rfl rfl]
          by_cases stays : own = tag ∧ .remove place earlier.name ∉ later
          · rw [if_congr (and_iff_right stays) rfl rfl, if_pos stays, List.filter_cons]
          · rw [if_neg fun both => stays both.1, if_neg stays]

theorem surviving_of_unused (place : Nat) (unused : tag ∉ edits.filterMap Edit.tag?) :
    surviving place tag edits = [] := by
  induction edits with
  | nil => rfl
  | cons first later ih =>
      cases first with
      | remove _ _ => exact ih unused
      | add own attr =>
          obtain ⟨differs, laterUnused⟩ := List.ne_and_not_mem_of_not_mem_cons unused
          rw [surviving, if_neg fun both => differs both.1.symm]
          exact ih laterUnused

/-- The list is what edits make of nothing: groups in the order in which their delimiters were used
first, each of them the ordered map of what survives in it. -/
structure BuiltBy (attributes : Attributes) (edits : List Edit) : Prop where
  tags : attributes.groups.map (·.tag) = (edits.filterMap Edit.tag?).eraseDups
  groups : ∀ (place : Nat) (group : AttributeGroup), attributes.groups[place]? = some group →
    group.Reflects (surviving place group.tag edits)

theorem builtBy_empty : empty.BuiltBy [] where
  tags := rfl
  groups _ _ found := nomatch found

theorem BuiltBy.distinct (builtBy : attributes.BuiltBy edits) :
    (attributes.groups.map (·.tag)).Nodup := by
  rw [builtBy.tags]
  exact nodup_eraseDups _

/-- Where no delimiter occurs twice, a group of the delimiter is the first one. -/
theorem findIdx_tag_of_distinct (distinct : (attributes.groups.map (·.tag)).Nodup) {place : Nat}
    {group : AttributeGroup} (found : attributes.groups[place]? = some group) :
    attributes.groups.findIdx (·.tag == group.tag) = place := by
  obtain ⟨inside, isGroup⟩ := List.getElem?_eq_some_iff.mp found
  have first := distinct.idxOf_getElem place (by simpa using inside)
  rw [List.getElem_map, isGroup, List.idxOf, List.findIdx_map] at first
  exact first

@[simp] theorem tag_receiver (attributes : Attributes) (tag : DelimiterTag) :
    (attributes.receiver tag).tag = tag := by
  rw [receiver]
  cases found : attributes.groups.find? (·.tag == tag) with
  | none => rfl
  | some group => simpa using List.find?_some found

theorem BuiltBy.receiver (builtBy : attributes.BuiltBy edits) (tag : DelimiterTag) :
    (attributes.receiver tag).Reflects
      (surviving (attributes.groups.findIdx (·.tag == tag)) tag edits) := by
  cases found : attributes.groups.find? (·.tag == tag) with
  | none =>
      have unused : tag ∉ edits.filterMap Edit.tag? := by
        rw [← List.mem_eraseDups, ← builtBy.tags]
        simpa using found
      rw [surviving_of_unused _ unused, Attributes.receiver, found]
      exact AttributeGroup.reflects_empty tag
  | some group =>
      have same : group.tag = tag := by simpa using List.find?_some found
      rw [Attributes.receiver, found, Option.getD_some, ← same]
      apply builtBy.groups
      rw [← List.find?_eq_getElem?_findIdx, same, found]

theorem BuiltBy.add (builtBy : attributes.BuiltBy edits) (tag : DelimiterTag) (attr : Attribute) :
    (attributes.add tag attr).BuiltBy (edits ++ [.add tag attr]) where
  tags := by
    rw [map_tag_add, List.filterMap_append, builtBy.tags]
    simp only [List.filterMap_cons, Edit.tag?, List.filterMap_nil, eraseDups_concat,
      List.mem_eraseDups]
  groups place group found := by
    rw [getElem?_groups_add] at found
    rw [surviving_concat_add]
    split at found
    · next own =>
        cases found
        have received := (builtBy.receiver tag).add attr
        have sameTag : ((attributes.receiver tag).add attr).tag = tag := tag_receiver attributes tag
        rwa [sameTag, if_pos rfl, own]
    · next other =>
        have differs : tag ≠ group.tag := by
          rintro rfl
          exact other (findIdx_tag_of_distinct builtBy.distinct found).symm
        rw [if_neg differs, List.append_nil]
        exact builtBy.groups place group found

theorem BuiltBy.remove (builtBy : attributes.BuiltBy edits) (place : Nat) (name : String) :
    (attributes.edit (.remove place name)).BuiltBy (edits ++ [.remove place name]) where
  tags := by
    have kept : (attributes.edit (.remove place name)).groups.map (·.tag) =
        attributes.groups.map (·.tag) := by
      apply List.ext_getElem?
      intro other
      simp only [Attributes.edit, List.getElem?_map, List.getElem?_modify]
      cases attributes.groups[other]? with
      | none => rfl
      | some group =>
          simp only [Option.map_some, Option.map_eq_map, Option.some.injEq]
          split
          · exact group.tag_remove name
          · rfl
    rw [kept, builtBy.tags, List.filterMap_append]
    exact congrArg List.eraseDups (List.append_nil _).symm
  groups other group found := by
    rw [edit, List.getElem?_modify] at found
    rw [surviving_concat_remove]
    obtain ⟨before, isBefore, changed⟩ := Option.map_eq_some_iff.mp found
    have reflects := builtBy.groups other before isBefore
    by_cases own : place = other
    · subst own
      simp only [if_true] at changed
      subst changed
      simpa [bne] using reflects.remove name
    · rw [if_neg own] at changed
      subst changed
      have elsewhere : (place == other) = false := beq_false_of_ne own
      simpa [elsewhere] using reflects

theorem BuiltBy.edit (builtBy : attributes.BuiltBy edits) (last : Edit) :
    (attributes.edit last).BuiltBy (edits ++ [last]) := by
  cases last with
  | add tag attr => exact builtBy.add tag attr
  | remove place name => exact builtBy.remove place name

theorem builtBy_built (edits : List Edit) : (built edits).BuiltBy edits := by
  induction edits using List.reverseRecOn with
  | nil => exact builtBy_empty
  | append_singleton edits last ih =>
      rw [built, List.foldl_concat]
      exact ih.edit last

/-- A list that was built is a list of ordered maps, one for every delimiter that was used.  Its
groups stand in the order in which their delimiters were used first.  A group has, under every name
that was not removed since, what was added last, in the order in which the names were added first;
what is taken out of it is what was found in it. -/
theorem built_isOrderedMap (edits : List Edit) :
    ((built edits).groups.map (·.tag)).Nodup ∧
      (built edits).groups.map (·.tag) = (edits.filterMap Edit.tag?).eraseDups ∧
      ∀ (place : Nat) (group : AttributeGroup), (built edits).groups[place]? = some group →
        (group.attributes.map (·.name)).Nodup ∧
          group.attributes.map (·.name) =
            ((surviving place group.tag edits).map (·.name)).eraseDups ∧
          (∀ attr : Attribute, (group.add attr).attributes.map (·.name) =
            if attr.name ∈ group.attributes.map (·.name) then group.attributes.map (·.name)
            else group.attributes.map (·.name) ++ [attr.name]) ∧
          ∀ name : String,
            group.get? name =
                ((surviving place group.tag edits).filter (·.name == name)).getLast? ∧
              (group.extract name).1 = group.get? name ∧
              (group.get? name = none → group.extract name = (none, group)) := by
  have builtBy := builtBy_built edits
  refine ⟨builtBy.distinct, builtBy.tags, ?_⟩
  intro place group found
  have reflects := builtBy.groups place group found
  refine ⟨reflects.distinct, reflects.names, group.map_name_add, ?_⟩
  intro name
  exact ⟨reflects.get? name, group.extract_fst name, AttributeGroup.extract_of_absent⟩

/-- A name that was removed and added again stands behind the others. -/
theorem built_isOrderedMap_addedAgain :
    let once : Attribute := .ofValue AttributeName.copies (.integer 1)
    let twice : Attribute := .ofValue AttributeName.copies (.integer 2)
    let named : Attribute := .ofValue AttributeName.jobName (.text .nameWithoutLanguage "list")
    let edits : List Edit :=
      [.add .jobAttributes once, .add .jobAttributes named, .remove 0 AttributeName.copies,
        .add .operationAttributes once, .add .jobAttributes twice]
    (built edits).groups[0]? = some ⟨.jobAttributes, [named, twice]⟩ ∧
      [named, twice].map (·.name) = ((surviving 0 .jobAttributes edits).map (·.name)).eraseDups ∧
      AttributeGroup.get? ⟨.jobAttributes, [named, twice]⟩ AttributeName.copies =
        ((surviving 0 .jobAttributes edits).filter (·.name == AttributeName.copies)).getLast? := by
  intro once twice named edits
  have found : (built edits).groups[0]? = some ⟨.jobAttributes, [named, twice]⟩ := by decide
  obtain ⟨-, names, -, values⟩ := (built_isOrderedMap edits).2.2 0 _ found
  exact ⟨found, names, (values AttributeName.copies).1⟩

end Attributes

end PrintProxy
