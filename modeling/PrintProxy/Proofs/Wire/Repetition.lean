import PrintProxy.Wire.Read

/-!
# Relational specification of repeated reads

`Read.many` gathers what it finds in an accumulator and stops at the first
point where no further read is asked for.  `Repeats` and `BreaksOff` describe
its two outcomes as derivations, so that later arguments about groups,
attributes and values are inductions on what has been read.  What both have in
common is `Passes`: the reads up to the point that decides between them.
-/

namespace PrintProxy.Read

variable {α : Type}

/-- The reads that follow one another from an input, up to a point where no further one is asked
for. -/
inductive Repeats (next : Bytes → Option (Read α)) : Bytes → List α → Bytes → Prop where
  | done {input : Bytes} : next input = none → Repeats next input [] input
  | step {input middle rest : Bytes} {value : α} {values : List α} :
      next input = some (ok value middle) →
      Repeats next middle values rest →
      Repeats next input (value :: values) rest

/-- The reads that follow one another from an input, up to one that fails. -/
inductive BreaksOff (next : Bytes → Option (Read α)) : Bytes → WireFault → Bytes → Prop where
  | here {input rest : Bytes} {cause : WireFault} :
      next input = some (fault cause rest) →
      BreaksOff next input cause rest
  | later {input middle rest : Bytes} {value : α} {cause : WireFault} :
      next input = some (ok value middle) →
      BreaksOff next middle cause rest →
      BreaksOff next input cause rest

/-- The reads that follow one another from an input, up to any point. -/
inductive Passes (next : Bytes → Option (Read α)) : Bytes → List α → Bytes → Prop where
  | nothing {input : Bytes} : Passes next input [] input
  | step {input middle rest : Bytes} {value : α} {values : List α} :
      next input = some (ok value middle) →
      Passes next middle values rest →
      Passes next input (value :: values) rest

section

variable {next : Bytes → Option (Read α)} {input rest : Bytes}

theorem repeats_iff {values : List α} :
    Repeats next input values rest ↔ Passes next input values rest ∧ next rest = none := by
  constructor
  · intro repeats
    induction repeats with
    | done stops => exact ⟨.nothing, stops⟩
    | step finds _ ih => exact ⟨.step finds ih.1, ih.2⟩
  · rintro ⟨passes, stops⟩
    induction passes with
    | nothing => exact .done stops
    | step finds _ ih => exact .step finds (ih stops)

theorem breaksOff_iff {cause : WireFault} :
    BreaksOff next input cause rest ↔
      ∃ values middle, Passes next input values middle ∧ next middle = some (fault cause rest) := by
  constructor
  · intro breaks
    induction breaks with
    | here fails => exact ⟨[], _, .nothing, fails⟩
    | later finds _ ih =>
        obtain ⟨values, middle, passes, fails⟩ := ih
        exact ⟨_ :: values, middle, .step finds passes, fails⟩
  · rintro ⟨values, middle, passes, fails⟩
    induction passes with
    | nothing => exact .here fails
    | step finds _ ih => exact .later finds (ih fails)

theorem passes_nil_iff : Passes next input [] rest ↔ input = rest := by
  constructor
  · intro passes
    cases passes
    rfl
  · rintro rfl
    exact .nothing

theorem passes_cons_iff {value : α} {values : List α} :
    Passes next input (value :: values) rest ↔
      ∃ middle, next input = some (ok value middle) ∧ Passes next middle values rest := by
  constructor
  · intro passes
    cases passes with
    | step finds others => exact ⟨_, finds, others⟩
  · rintro ⟨middle, finds, others⟩
    exact .step finds others

end

section

variable {next : Bytes → Option (Read α)}
  {shrinks : ∀ {input value rest}, next input = some (ok value rest) →
    rest.length < input.length}
  {foundBefore : List α} {input : Bytes}

theorem many_of_none (stops : next input = none) :
    many next shrinks foundBefore input = ok foundBefore.reverse input := by
  rw [many]
  split
  · rfl
  · next step => cases stops.symm.trans step
  · next step => cases stops.symm.trans step

theorem many_of_fault {cause : WireFault} {rest : Bytes}
    (fails : next input = some (fault cause rest)) :
    many next shrinks foundBefore input = fault cause rest := by
  rw [many]
  split
  · next step => cases fails.symm.trans step
  · next step =>
      cases fails.symm.trans step
      rfl
  · next step => cases fails.symm.trans step

theorem many_of_ok {value : α} {rest : Bytes}
    (finds : next input = some (ok value rest)) :
    many next shrinks foundBefore input =
      many next shrinks (value :: foundBefore) rest := by
  rw [many]
  split
  · next step => cases finds.symm.trans step
  · next step => cases finds.symm.trans step
  · next step =>
      cases finds.symm.trans step
      rfl

theorem Repeats.many_eq {values : List α} {rest : Bytes}
    (repeats : Repeats next input values rest) (foundBefore : List α) :
    many next shrinks foundBefore input = ok (foundBefore.reverse ++ values) rest := by
  induction repeats generalizing foundBefore with
  | done stops => rw [many_of_none stops, List.append_nil]
  | step finds _ ih =>
      rw [many_of_ok finds, ih, List.reverse_cons, List.append_assoc]
      rfl

theorem BreaksOff.many_eq {cause : WireFault} {rest : Bytes}
    (breaks : BreaksOff next input cause rest) (foundBefore : List α) :
    many next shrinks foundBefore input = fault cause rest := by
  induction breaks generalizing foundBefore with
  | here fails => exact many_of_fault fails
  | later finds _ ih => rw [many_of_ok finds, ih]

theorem exists_repeats_of_many {values : List α} {rest : Bytes}
    (found : many next shrinks foundBefore input = ok values rest) :
    ∃ more, values = foundBefore.reverse ++ more ∧ Repeats next input more rest := by
  fun_induction many next shrinks foundBefore input with
  | case1 foundBefore input stops =>
      cases found
      exact ⟨[], by simp, .done stops⟩
  | case2 foundBefore input cause left fails => cases found
  | case3 foundBefore input value left finds ih =>
      obtain ⟨more, rfl, repeats⟩ := ih found
      exact ⟨value :: more, by simp, .step finds repeats⟩

theorem breaksOff_of_many {cause : WireFault} {rest : Bytes}
    (failed : many next shrinks foundBefore input = fault cause rest) :
    BreaksOff next input cause rest := by
  fun_induction many next shrinks foundBefore input with
  | case1 foundBefore input stops => cases failed
  | case2 foundBefore input cause left fails =>
      cases failed
      exact .here fails
  | case3 foundBefore input value left finds ih => exact .later finds (ih failed)

/-- A repetition succeeds exactly with the reads that follow one another. -/
theorem many_eq_ok_iff {values : List α} {rest : Bytes} :
    many next shrinks [] input = ok values rest ↔ Repeats next input values rest := by
  constructor
  · intro found
    obtain ⟨more, rfl, repeats⟩ := exists_repeats_of_many found
    exact repeats
  · intro repeats
    exact repeats.many_eq []

/-- A repetition fails exactly as the first of its reads that fails. -/
theorem many_eq_fault_iff {cause : WireFault} {rest : Bytes} :
    many next shrinks [] input = fault cause rest ↔ BreaksOff next input cause rest := by
  constructor
  · exact breaksOff_of_many
  · intro breaks
    exact breaks.many_eq []

end

end PrintProxy.Read
