import PrintProxy.Proofs.Text.Decimal
import PrintProxy.Value.Text

/-!
# Option texts

A text given as an option means a truth, an integer of 32 bits, or itself.
`Means` describes the three without looking at how a text is read, and
`ofText_eq_iff_means` says that reading finds what a text means.  So the texts of
truths and integers are read back, and a keyword is unless its text is a literal.
-/

namespace PrintProxy.Value

/-- The text means another value than itself: a truth, or an integer of 32 bits. -/
inductive IsLiteral (content : String) : Prop where
  | truth (truth : Bool) (isWord : content = if truth then "true" else "false")
  | number (number : Int) (denoted : Numeral.Denotes content.toList number)
      (fits : Numeral.IsInt32 number)

/-- What a text means as an option. -/
inductive Means (content : String) : Value → Prop where
  | truth {truth : Bool} : (content = if truth then "true" else "false") →
      Means content (.boolean truth)
  | number {number : Int32} : Numeral.Denotes content.toList number.toInt →
      Means content (.integer number)
  | itself : ¬IsLiteral content → Means content (.keyword content)

variable {content : String}

/-- The words for truths have letters, which no decimal has. -/
theorem not_denotes_truth (truth : Bool) (number : Int) :
    ¬Numeral.Denotes (if truth then "true" else "false").toList number := by
  intro denoted
  have letter : 'e' ∈ (if truth then "true" else "false").toList := by cases truth <;> decide
  have noLetter := denoted.isDigit_or 'e' letter
  exact absurd noLetter (by decide)

theorem ofText_truth (truth : Bool) :
    ofText (if truth then "true" else "false") = .boolean truth := by
  cases truth with
  | true => exact if_pos rfl
  | false => exact (if_neg (by decide)).trans (if_pos rfl)

/-- A text that is no word for a truth is read as a number or kept. -/
theorem ofText_of_no_truth (noTruth : ∀ truth : Bool, content ≠ if truth then "true" else "false") :
    ofText content =
      match Numeral.readInt32? content with
      | some number => .integer number
      | none => .keyword content :=
  (if_neg (noTruth true)).trans (if_neg (noTruth false))

theorem means_ofText (content : String) : Means content (ofText content) := by
  by_cases isTruth : ∃ truth : Bool, content = if truth then "true" else "false"
  · obtain ⟨truth, rfl⟩ := isTruth
    rw [ofText_truth]
    exact .truth rfl
  · rw [ofText_of_no_truth (not_exists.mp isTruth)]
    split
    · next number found => exact .number (Numeral.readInt32?_eq_some_iff.mp found)
    · next noNumber =>
        apply Means.itself
        intro literal
        cases literal with
        | truth truth isWord => exact isTruth ⟨truth, isWord⟩
        | number number denoted fits =>
            exact Numeral.readInt32?_eq_none_iff.mp noNumber number denoted fits

theorem Means.ofText_eq {value : Value} (means : Means content value) :
    ofText content = value := by
  cases means with
  | truth isWord =>
      rw [isWord]
      exact ofText_truth _
  | number denoted =>
      rw [ofText_of_no_truth, Numeral.readInt32?_eq_some_iff.mpr denoted]
      rintro truth rfl
      exact not_denotes_truth truth _ denoted
  | itself noLiteral =>
      have noNumber : Numeral.readInt32? content = none := by
        apply Numeral.readInt32?_eq_none_iff.mpr
        intro number denoted fits
        exact noLiteral (.number number denoted fits)
      rw [ofText_of_no_truth fun truth isWord => noLiteral (.truth truth isWord), noNumber]

/-- A text is read as the one value that it means. -/
theorem ofText_eq_iff_means {value : Value} : ofText content = value ↔ Means content value := by
  constructor
  · rintro rfl
    exact means_ofText content
  · exact Means.ofText_eq

theorem ofText_eq_boolean_iff {truth : Bool} :
    ofText content = .boolean truth ↔ content = if truth then "true" else "false" := by
  rw [ofText_eq_iff_means]
  constructor
  · intro means
    cases means with
    | truth isWord => exact isWord
  · exact Means.truth

theorem ofText_eq_integer_iff {number : Int32} :
    ofText content = .integer number ↔ Numeral.Denotes content.toList number.toInt := by
  rw [ofText_eq_iff_means]
  constructor
  · intro means
    cases means with
    | number denoted => exact denoted
  · exact Means.number

/-- What is kept is kept unchanged. -/
theorem ofText_eq_keyword_iff {kept : String} :
    ofText content = .keyword kept ↔ kept = content ∧ ¬IsLiteral content := by
  rw [ofText_eq_iff_means]
  constructor
  · intro means
    cases means with
    | itself noLiteral => exact ⟨rfl, noLiteral⟩
  · rintro ⟨rfl, noLiteral⟩
    exact .itself noLiteral

/-- A text is a truth exactly as one of the two words, an integer exactly as a decimal, with or
without a sign, of a number of 32 bits, and kept as a keyword otherwise.  Integers and truths are
read back from their texts, and exactly those keywords whose texts are no literals. -/
theorem ofText_reads_literals (content : String) :
    (∀ truth, ofText content = .boolean truth ↔ content = if truth then "true" else "false") ∧
    (∀ number, ofText content = .integer number ↔
      ∃ denoted, Numeral.Denotes content.toList denoted ∧
        -2147483648 ≤ denoted ∧ denoted ≤ 2147483647 ∧ number.toInt = denoted) ∧
    (∀ kept, ofText content = .keyword kept ↔ kept = content ∧ ¬IsLiteral content) ∧
    (∀ number, ofText (integer number).render = .integer number) ∧
    (∀ truth, ofText (boolean truth).render = .boolean truth) ∧
    (ofText (keyword content).render = .keyword content ↔ ¬IsLiteral content) := by
  refine ⟨fun _ => ofText_eq_boolean_iff, ?_, fun _ => ofText_eq_keyword_iff, ?_, ofText_truth, ?_⟩
  · intro number
    rw [ofText_eq_integer_iff]
    constructor
    · intro denoted
      obtain ⟨least, greatest⟩ := Numeral.isInt32_toInt number
      exact ⟨_, denoted, least, greatest, rfl⟩
    · rintro ⟨_, denoted, _, _, rfl⟩
      exact denoted
  · intro number
    exact ofText_eq_integer_iff.mpr (Numeral.denotes_signed number.toInt)
  · exact ofText_eq_keyword_iff.trans (and_iff_right rfl)

/-- The least number of 32 bits is one, and the next below it is kept as it is written. -/
example : ofText "-2147483648" = .integer Int32.minValue ∧
    ofText "-2147483649" = .keyword "-2147483649" := by
  decide

end PrintProxy.Value
