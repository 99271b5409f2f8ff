import Mathlib.Algebra.Group.Nat.Defs
import PrintProxy.Dispatcher

/-!
# Transcripts

A dispatcher takes one item after another, each in the state that the items
before it have left.  A transcript lists the items in order, each with what it
was answered.  What holds of one step in every state holds of every entry; a
counter that some entries advance has advanced by their number.
-/

namespace PrintProxy

theorem add_one_add_ofNat (start : Int32) (count : Nat) :
    start + 1 + Int32.ofNat count = start + Int32.ofNat (count + 1) := by
  rw [Int32.ofNat_add, Int32.add_assoc, Int32.add_comm 1]
  rfl

/-- The next number after a count does not wrap around while there are few. -/
theorem toInt_ofNat_add_one {count : Nat} (few : count + 1 < 2 ^ 31) :
    (Int32.ofNat count + 1).toInt = count + 1 := by
  have next : Int32.ofNat count + 1 = Int32.ofNat (count + 1) := (Int32.ofNat_add count 1).symm
  rw [next, Int32.toInt_ofNat_of_lt few]
  rfl

section

variable {α β σ : Type} (step : α → σ → β × σ)

/-- The state that items have left when all of them are taken. -/
def stateAfter (items : List α) (state : σ) : σ :=
  items.foldl (fun state item => (step item state).2) state

/-- Items with their results, in the order in which they are taken. -/
def transcript : List α → σ → List (α × β)
  | [], _ => []
  | item :: items, state => (item, (step item state).1) :: transcript items (step item state).2

@[simp] theorem map_fst_transcript (items : List α) (state : σ) :
    (transcript step items state).map Prod.fst = items := by
  induction items generalizing state with
  | nil => rfl
  | cons item items ih => rw [transcript, List.map_cons, ih]

@[simp] theorem length_transcript (items : List α) (state : σ) :
    (transcript step items state).length = items.length := by
  rw [← List.length_map Prod.fst, map_fst_transcript]

theorem transcript_append (earlier later : List α) (state : σ) :
    transcript step (earlier ++ later) state =
      transcript step earlier state ++ transcript step later (stateAfter step earlier state) := by
  induction earlier generalizing state with
  | nil => rfl
  | cons item earlier ih =>
      rw [List.cons_append, transcript, transcript, ih, List.cons_append]
      rfl

variable {step}

theorem length_lt_of_split {items : List α} {state : σ} {before after : List (α × β)}
    {entry : α × β} (split : transcript step items state = before ++ entry :: after) :
    before.length < items.length := by
  have entries := congrArg List.length split
  rw [length_transcript, List.length_append, List.length_cons] at entries
  omega

/-- An entry was made in the state that the entries before it had left, and they are the transcript
of their own items. -/
theorem transcript_split {items : List α} {state : σ} {before after : List (α × β)} {item : α}
    {result : β} (split : transcript step items state = before ++ (item, result) :: after) :
    transcript step (before.map Prod.fst) state = before ∧
      result = (step item (stateAfter step (before.map Prod.fst) state)).1 := by
  induction before generalizing items state with
  | nil =>
      cases items with
      | nil => cases split
      | cons first items =>
          cases split
          exact ⟨rfl, rfl⟩
  | cons entry before ih =>
      cases items with
      | nil => cases split
      | cons first items =>
          obtain ⟨same, rest⟩ := List.cons.inj split
          obtain ⟨earlier, made⟩ := ih rest
          rw [← same, List.map_cons, transcript, earlier]
          exact ⟨rfl, made⟩

/-- A counter that an entry advances by one or not at all counts the entries that advance it. -/
theorem counter_stateAfter (counter : σ → Int32) (advances : α × β → Bool)
    (each : ∀ item state, counter (step item state).2 =
      if advances (item, (step item state).1) then counter state + 1 else counter state)
    (items : List α) (state : σ) :
    counter (stateAfter step items state) =
      counter state + Int32.ofNat ((transcript step items state).countP advances) := by
  induction items generalizing state with
  | nil => exact (Int32.add_zero (counter state)).symm
  | cons item items ih =>
      have rest := ih (step item state).2
      rw [transcript, List.countP_cons]
      refine rest.trans ?_
      rw [each]
      split
      · exact add_one_add_ofNat (counter state) _
      · rw [Nat.add_zero]

end

end PrintProxy
