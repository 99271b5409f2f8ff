import PrintProxy.WireFault

/-!
# Reading octets

A read takes octets from the front of the input and leaves the rest.  A failed
read may have taken octets too: what it leaves is where the next read goes on.
`many` repeats a read for as long as a look at the input asks for one more.
-/

namespace PrintProxy

/-- What a read found or why it failed, and the octets it left. -/
inductive Read (α : Type) where
  | ok (value : α) (rest : Bytes)
  | fault (cause : WireFault) (rest : Bytes)
deriving DecidableEq, Repr

namespace Read

variable {α β : Type}

def rest : Read α → Bytes
  | ok _ rest | fault _ rest => rest

def result : Read α → Except WireFault α
  | ok value _ => .ok value
  | fault cause _ => .error cause

/-- Goes on with another read where one succeeded. -/
def andThen (read : Read α) (next : α → Bytes → Read β) : Read β :=
  match read with
  | ok value rest => next value rest
  | fault cause rest => fault cause rest

def map (change : α → β) (read : Read α) : Read β :=
  read.andThen fun value rest => ok (change value) rest

theorem andThen_eq_ok {read : Read α} {next : α → Bytes → Read β} {value : β} {rest : Bytes} :
    read.andThen next = ok value rest ↔
      ∃ first middle, read = ok first middle ∧ next first middle = ok value rest := by
  cases read with
  | ok first middle =>
      constructor
      · intro found
        exact ⟨first, middle, rfl, found⟩
      · rintro ⟨_, _, same, found⟩
        cases same
        exact found
  | fault cause middle =>
      constructor
      · intro found
        cases found
      · rintro ⟨_, _, same, _⟩
        cases same

theorem map_eq_ok {read : Read α} {change : α → β} {value : β} {rest : Bytes} :
    read.map change = ok value rest ↔ ∃ first, read = ok first rest ∧ change first = value := by
  rw [map, andThen_eq_ok]
  constructor
  · rintro ⟨first, middle, found, same⟩
    cases same
    exact ⟨first, found, rfl⟩
  · rintro ⟨first, found, rfl⟩
    exact ⟨first, rest, found, rfl⟩

theorem andThen_eq_fault {read : Read α} {next : α → Bytes → Read β} {cause : WireFault}
    {rest : Bytes} :
    read.andThen next = fault cause rest ↔
      read = fault cause rest ∨
        ∃ first middle, read = ok first middle ∧ next first middle = fault cause rest := by
  cases read with
  | ok first middle =>
      constructor
      · intro failed
        exact .inr ⟨first, middle, rfl, failed⟩
      · intro failed
        rcases failed with impossible | ⟨_, _, same, failed⟩
        · cases impossible
        · cases same
          exact failed
  | fault earlier middle =>
      constructor
      · intro failed
        cases failed
        exact .inl rfl
      · intro failed
        rcases failed with same | ⟨_, _, impossible, _⟩
        · cases same
          rfl
        · cases impossible

theorem map_eq_fault {read : Read α} {change : α → β} {cause : WireFault} {rest : Bytes} :
    read.map change = fault cause rest ↔ read = fault cause rest := by
  rw [map, andThen_eq_fault]
  constructor
  · intro failed
    rcases failed with same | ⟨_, _, _, impossible⟩
    · exact same
    · cases impossible
  · exact .inl

/-- Repeats a read.  At each point `next` says whether there is one more to do, and every such read
that succeeds takes at least one octet. -/
def many (next : Bytes → Option (Read α))
    (shrinks : ∀ {input value rest}, next input = some (ok value rest) →
      rest.length < input.length)
    (foundBefore : List α) (input : Bytes) : Read (List α) :=
  match _step : next input with
  | none => ok foundBefore.reverse input
  | some (fault cause rest) => fault cause rest
  | some (ok value rest) => many next shrinks (value :: foundBefore) rest
termination_by input.length
decreasing_by exact shrinks _step

/-- A repetition leaves no more than it was given. -/
theorem length_rest_le_of_many {next : Bytes → Option (Read α)}
    {shrinks : ∀ {input value rest}, next input = some (ok value rest) →
      rest.length < input.length}
    {foundBefore values : List α} {input rest : Bytes}
    (found : many next shrinks foundBefore input = ok values rest) :
    rest.length ≤ input.length := by
  fun_induction many next shrinks foundBefore input with
  | case1 foundBefore input step =>
      cases found
      exact Nat.le_refl _
  | case2 foundBefore input cause left step =>
      cases found
  | case3 foundBefore input value left step ih =>
      exact Nat.le_of_lt (Nat.lt_of_le_of_lt (ih found) (shrinks step))

end Read

end PrintProxy
