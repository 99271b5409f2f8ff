import PrintProxy.Proofs.Message.Getters
import PrintProxy.Proofs.Operation.Composition

/-!
# What an answer leaves alone

An answer changes the request's groups in one place: in the first job attributes,
or in new ones behind all groups if there are none.  There it replaces, where
they stand, or appends what it says about the job.  The groups of printers stand
behind.  What the request carries behind its groups plays no part.
-/

namespace PrintProxy

namespace AttributeGroup

/-- Only attributes of some names are changed: they are replaced where they stand, or put behind
all. -/
structure Amends (names : List String) (before after : AttributeGroup) : Prop where
  tag : after.tag = before.tag
  kept : ∀ (position : Nat) (attr : Attribute), before.attributes[position]? = some attr →
    ∃ now, after.attributes[position]? = some now ∧ now.name = attr.name ∧
      (attr.name ∉ names → now = attr)
  added : ∀ (position : Nat) (attr : Attribute), before.attributes.length ≤ position →
    after.attributes[position]? = some attr → attr.name ∈ names

namespace Amends

variable {names : List String} {first second third : AttributeGroup}

theorem refl (names : List String) (group : AttributeGroup) : group.Amends names group where
  tag := rfl
  kept _ attr found := ⟨attr, found, rfl, fun _ => rfl⟩
  added position attr behind found := by
    rw [List.getElem?_eq_none behind] at found
    cases found

theorem trans (earlier : first.Amends names second) (later : second.Amends names third) :
    first.Amends names third where
  tag := later.tag.trans earlier.tag
  kept position attr found := by
    obtain ⟨between, isBetween, sameName, keptFirst⟩ := earlier.kept position attr found
    obtain ⟨now, isNow, stillSameName, keptSecond⟩ := later.kept position between isBetween
    refine ⟨now, isNow, stillSameName.trans sameName, ?_⟩
    intro other
    rw [keptSecond (by rwa [sameName]), keptFirst other]
  added position attr behind found := by
    cases isBetween : second.attributes[position]? with
    | none => exact later.added position attr (List.getElem?_eq_none_iff.mp isBetween) found
    | some between =>
        obtain ⟨now, isNow, sameName, -⟩ := later.kept position between isBetween
        rw [found] at isNow
        cases isNow
        rw [sameName]
        exact earlier.added position between behind isBetween

theorem add {attr : Attribute} (isMeant : attr.name ∈ names) (group : AttributeGroup) :
    group.Amends names (group.add attr) where
  tag := rfl
  kept position old found := by
    rw [getElem?_add]
    split
    · next isFirst =>
        have isFound : group.get? attr.name = some old := by
          rw [get?, List.find?_eq_getElem?_findIdx, ← isFirst, found]
        have sameName : old.name = attr.name := by simpa using List.find?_some isFound
        exact ⟨attr, rfl, sameName.symm, fun other => absurd (sameName ▸ isMeant) other⟩
    · exact ⟨old, found, rfl, fun _ => rfl⟩
  added position new behind found := by
    rw [getElem?_add] at found
    split at found
    · cases found
      exact isMeant
    · rw [List.getElem?_eq_none behind] at found
      cases found

theorem addAll {attrs : List Attribute} (areMeant : ∀ attr ∈ attrs, attr.name ∈ names)
    (group : AttributeGroup) : group.Amends names (group.addAll attrs) := by
  induction attrs generalizing group with
  | nil => exact refl names group
  | cons attr attrs ih =>
      obtain ⟨isMeant, othersMeant⟩ := List.forall_mem_cons.mp areMeant
      exact (add isMeant group).trans (ih othersMeant (group.add attr))

end Amends

end AttributeGroup

namespace Attributes

/-- Only the first group of a delimiter is changed, or a new one behind all, and there only
attributes of some names. -/
structure Amends (tag : DelimiterTag) (names : List String) (before after : Attributes) : Prop where
  others : ∀ place : Nat, place ≠ before.groups.findIdx (·.tag == tag) →
    after.groups[place]? = before.groups[place]?
  own : after.groups[before.groups.findIdx (·.tag == tag)]? =
      before.groups[before.groups.findIdx (·.tag == tag)]? ∨
    ∃ group, after.groups[before.groups.findIdx (·.tag == tag)]? = some group ∧
      (before.receiver tag).Amends names group

theorem amends_addAll {names : List String} {attrs : List Attribute}
    (areMeant : ∀ attr ∈ attrs, attr.name ∈ names) (attributes : Attributes) (tag : DelimiterTag) :
    attributes.Amends tag names (attributes.addAll tag attrs) := by
  by_cases empty : attrs = []
  · subst empty
    exact ⟨fun _ _ => rfl, .inl rfl⟩
  · constructor
    · intro place other
      rw [getElem?_groups_addAll empty, if_neg other]
    · refine .inr ⟨_, ?_, .addAll areMeant _⟩
      rw [getElem?_groups_addAll empty, if_pos rfl]

end Attributes

/-- What an answer says about its job. -/
def jobReportNames : List String :=
  [AttributeName.jobId, AttributeName.jobUri, AttributeName.jobState,
    AttributeName.jobStateReasons]

namespace Operation

theorem name_mem_of_mem_jobReport {operation : Operation} {attr : Attribute}
    (reported : attr ∈ operation.jobReport) : attr.name ∈ jobReportNames := by
  rcases List.mem_append.mp reported with addresses | states
  · rcases eq_of_mem_jobAddress addresses with ⟨_, rfl⟩ | ⟨_, _, _, rfl⟩ <;>
      simp [jobReportNames]
  · rcases eq_of_mem_jobStatus states with ⟨_, rfl⟩ | ⟨_, rfl⟩ <;> simp [jobReportNames]

/-- The answer to a request keeps everything of it except its code, its payload and what it says
about the job in one group, and adds groups of printers behind; the payload does not matter. -/
theorem response_frame (operation : Operation) :
    operation.response.header.status = .successfulOk ∧
      operation.response.header =
        { operation.request.header with code := Status.successfulOk.code } ∧
      operation.response.payload = [] ∧
      (∃ groups : List AttributeGroup,
        operation.request.attributes.Amends .jobAttributes jobReportNames ⟨groups⟩ ∧
          operation.response.attributes.groups = groups ++ operation.printerGroups) ∧
      ∀ octets : Bytes,
        (operation.onRequest (·.setPayload octets)).response = operation.response := by
  rw [response_eq]
  refine ⟨rfl, rfl, rfl, ?_, ?_⟩
  · exact ⟨_, Attributes.amends_addAll (fun _ => name_mem_of_mem_jobReport) _ _, rfl⟩
  · intro octets
    rw [response_eq]
    rfl

end Operation

end PrintProxy
