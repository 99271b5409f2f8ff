import Mathlib.Data.List.Induction
import PrintProxy.Proofs.Text.Numeral

/-!
# What decimals denote

`DigitsDenote` says which number digits stand for, one digit behind another, and
`Denotes` which integer a decimal stands for that may have a sign.  Neither has
bounds.  Reading finds exactly the integers that are denoted and lie between its
bounds, whatever the zeros in front and however long the numeral; a sign without
digits denotes nothing.
-/

namespace PrintProxy.Numeral

/-- One or more digits, the last one of the least weight, and the number that they denote. -/
inductive DigitsDenote : List Char → Nat → Prop where
  | one {digit : Nat} : digit < 10 → DigitsDenote [digit.digitChar] digit
  | more {digits : List Char} {number digit : Nat} :
      DigitsDenote digits number → digit < 10 →
      DigitsDenote (digits ++ [digit.digitChar]) (10 * number + digit)

/-- A decimal with or without a sign, and the integer that it denotes. -/
inductive Denotes : List Char → Int → Prop where
  | unsigned {digits : List Char} {magnitude : Nat} :
      DigitsDenote digits magnitude → Denotes digits magnitude
  | plus {digits : List Char} {magnitude : Nat} :
      DigitsDenote digits magnitude → Denotes ('+' :: digits) magnitude
  | minus {digits : List Char} {magnitude : Nat} :
      DigitsDenote digits magnitude → Denotes ('-' :: digits) (-magnitude)

theorem digitChar_of_isDigit {character : Char} (digit : character.isDigit) :
    character.toNat - '0'.toNat < 10 ∧
      (character.toNat - '0'.toNat).digitChar = character := by
  have range : 48 ≤ character.toNat ∧ character.toNat ≤ 57 := Char.isDigit_iff_toNat.mp digit
  have small : character.toNat - 48 < 10 := by omega
  refine ⟨small, ?_⟩
  apply Char.toNat_inj.mp
  exact (Nat.toNat_digitChar_of_lt_ten small).trans (by omega)

theorem readDigits?_eq_some_iff {digits : List Char} {number : Nat} :
    readDigits? digits = some number ↔
      (digits ≠ [] ∧ digits.all Char.isDigit) ∧ Nat.ofDigitChars 10 digits 0 = number := by
  rw [readDigits?, Option.ite_none_right_eq_some, Option.some.injEq]

theorem DigitsDenote.isDigit {digits : List Char} {number : Nat}
    (denoted : DigitsDenote digits number) : ∀ character ∈ digits, character.isDigit := by
  induction denoted with
  | one small =>
      intro character member
      rw [List.mem_singleton.mp member, Nat.isDigit_digitChar, decide_eq_true small]
  | more _ small ih =>
      intro character member
      rcases List.mem_append.mp member with front | last
      · exact ih character front
      · rw [List.mem_singleton.mp last, Nat.isDigit_digitChar, decide_eq_true small]

theorem DigitsDenote.ne_nil {digits : List Char} {number : Nat}
    (denoted : DigitsDenote digits number) : digits ≠ [] := by
  cases denoted <;> simp

theorem DigitsDenote.ofDigitChars_eq {digits : List Char} {number : Nat}
    (denoted : DigitsDenote digits number) : Nat.ofDigitChars 10 digits 0 = number := by
  induction denoted with
  | one small =>
      rw [Nat.ofDigitChars_cons_digitChar_of_lt_ten small, Nat.ofDigitChars_nil, Nat.mul_zero,
        Nat.zero_add]
  | more _ small ih =>
      rw [Nat.ofDigitChars_append, ih, Nat.ofDigitChars_cons_digitChar_of_lt_ten small,
        Nat.ofDigitChars_nil]

/-- Any digits denote what their weights add up to. -/
theorem digitsDenote_ofDigitChars {digits : List Char} (nonempty : digits ≠ [])
    (each : ∀ character ∈ digits, character.isDigit) :
    DigitsDenote digits (Nat.ofDigitChars 10 digits 0) := by
  induction digits using List.reverseRecOn with
  | nil => exact absurd rfl nonempty
  | append_singleton front last ih =>
      obtain ⟨small, same⟩ := digitChar_of_isDigit (each last (by simp))
      rw [Nat.ofDigitChars_append, Nat.ofDigitChars_cons, Nat.ofDigitChars_nil]
      by_cases alone : front = []
      · rw [alone, Nat.ofDigitChars_nil, Nat.mul_zero, Nat.zero_add, List.nil_append]
        simpa only [same] using DigitsDenote.one small
      · have frontDenoted := ih alone fun character member =>
          each character (List.mem_append_left _ member)
        simpa only [same] using DigitsDenote.more frontDenoted small

theorem readDigits?_iff_digitsDenote {digits : List Char} {number : Nat} :
    readDigits? digits = some number ↔ DigitsDenote digits number := by
  rw [readDigits?_eq_some_iff, List.all_eq_true]
  constructor
  · rintro ⟨⟨nonempty, each⟩, rfl⟩
    exact digitsDenote_ofDigitChars nonempty each
  · intro denoted
    exact ⟨⟨denoted.ne_nil, denoted.isDigit⟩, denoted.ofDigitChars_eq⟩

/-- Reading with a bound finds the number that digits denote, if it is no greater. -/
theorem readAtMost?_eq_some_iff {greatest : Nat} {digits : List Char} {number : Nat} :
    readAtMost? greatest digits = some number ↔
      DigitsDenote digits number ∧ number ≤ greatest := by
  rw [readAtMost?_eq, Option.filter_eq_some_iff, readDigits?_iff_digitsDenote, decide_eq_true_eq]

/-- Digits have no sign in front, so they are read as they stand. -/
theorem DigitsDenote.ne_sign {digits rest : List Char} {number : Nat} {sign : Char}
    (denoted : DigitsDenote digits number) (noDigit : sign.isDigit = false) :
    digits ≠ sign :: rest := by
  rintro rfl
  have digit := denoted.isDigit sign List.mem_cons_self
  rw [noDigit] at digit
  cases digit

/-- Digits are read where a sign may stand, if their number is within the bound. -/
theorem readUnsigned?_of_digitsDenote {greatest number : Nat} {text : String}
    (denoted : DigitsDenote text.toList number) (small : number ≤ greatest) :
    readUnsigned? greatest text = some number := by
  rw [readUnsigned?]
  split
  · next begins => exact absurd begins (denoted.ne_sign (by decide))
  · exact readAtMost?_eq_some_iff.mpr ⟨denoted, small⟩

theorem Denotes.isDigit_or {characters : List Char} {number : Int}
    (denoted : Denotes characters number) :
    ∀ character ∈ characters, character.isDigit ∨ character = '+' ∨ character = '-' := by
  intro character member
  cases denoted with
  | unsigned digits => exact .inl (digits.isDigit character member)
  | plus digits =>
      rcases List.mem_cons.mp member with sign | behind
      · exact .inr (.inl sign)
      · exact .inl (digits.isDigit character behind)
  | minus digits =>
      rcases List.mem_cons.mp member with sign | behind
      · exact .inr (.inr sign)
      · exact .inl (digits.isDigit character behind)

/-- Reading with bounds finds the integer that a decimal denotes, if it lies between them. -/
theorem readSigned?_eq_some_iff {least greatest : Nat} {text : String} {number : Int} :
    readSigned? least greatest text = some number ↔
      Denotes text.toList number ∧ -(least : Int) ≤ number ∧ number ≤ greatest := by
  rw [readSigned?]
  generalize text.toList = characters
  constructor
  · intro found
    split at found
    · obtain ⟨magnitude, isRead, rfl⟩ := Option.map_eq_some_iff.mp found
      obtain ⟨digits, small⟩ := readAtMost?_eq_some_iff.mp isRead
      exact ⟨.plus digits, by simp only [Int.ofNat_eq_natCast]; omega⟩
    · obtain ⟨_, isCast, rfl⟩ := Option.map_eq_some_iff.mp found
      obtain ⟨magnitude, isRead, same⟩ := Option.bind_eq_some_iff.mp isCast
      cases same
      obtain ⟨digits, small⟩ := readAtMost?_eq_some_iff.mp isRead
      exact ⟨.minus digits, by omega⟩
    · obtain ⟨magnitude, isRead, rfl⟩ := Option.map_eq_some_iff.mp found
      obtain ⟨digits, small⟩ := readAtMost?_eq_some_iff.mp isRead
      exact ⟨.unsigned digits, by simp only [Int.ofNat_eq_natCast]; omega⟩
  · rintro ⟨denoted, aboveLeast, belowGreatest⟩
    cases denoted with
    | @unsigned _ magnitude digits =>
        have isRead := readAtMost?_eq_some_iff.mpr ⟨digits, Int.ofNat_le.mp belowGreatest⟩
        split
        · exact absurd rfl (digits.ne_sign (by decide))
        · exact absurd rfl (digits.ne_sign (by decide))
        · simp only [isRead, Option.map_some, Int.ofNat_eq_natCast]
    | @plus _ magnitude digits =>
        have isRead := readAtMost?_eq_some_iff.mpr ⟨digits, Int.ofNat_le.mp belowGreatest⟩
        simp only [isRead, Option.map_some, Int.ofNat_eq_natCast]
    | @minus _ magnitude digits =>
        have small : magnitude ≤ least := by omega
        have isRead := readAtMost?_eq_some_iff.mpr ⟨digits, small⟩
        simp only [isRead, Option.map_some, Option.pure_def, Option.bind_eq_bind, Option.bind_some]

/-- The integers that 32 bits with a sign can hold. -/
def IsInt32 (number : Int) : Prop := -2147483648 ≤ number ∧ number ≤ 2147483647

theorem isInt32_toInt (word : Int32) : IsInt32 word.toInt :=
  ⟨word.le_toInt, Int.le_of_lt_add_one word.toInt_lt⟩

theorem toInt_ofInt_of_isInt32 {number : Int} (fits : IsInt32 number) :
    (Int32.ofInt number).toInt = number :=
  Int32.toInt_ofInt_of_le fits.1 (Int.lt_add_one_of_le fits.2)

/-- A word is read exactly where a decimal denotes it, so nothing is cut or wrapped. -/
theorem readInt32?_eq_some_iff {text : String} {word : Int32} :
    readInt32? text = some word ↔ Denotes text.toList word.toInt := by
  rw [readInt32?, Option.map_eq_some_iff]
  constructor
  · rintro ⟨number, found, rfl⟩
    obtain ⟨denoted, fits⟩ := readSigned?_eq_some_iff.mp found
    rwa [toInt_ofInt_of_isInt32 fits]
  · intro denoted
    have found := readSigned?_eq_some_iff.mpr ⟨denoted, isInt32_toInt word⟩
    exact ⟨word.toInt, found, Int32.ofInt_toInt word⟩

theorem readInt32?_eq_none_iff {text : String} :
    readInt32? text = none ↔ ∀ number, Denotes text.toList number → ¬IsInt32 number := by
  constructor
  · intro missing number denoted fits
    rw [← toInt_ofInt_of_isInt32 fits] at denoted
    rw [readInt32?_eq_some_iff.mpr denoted] at missing
    cases missing
  · intro noNumber
    cases found : readInt32? text with
    | none => rfl
    | some word => exact absurd (isInt32_toInt word) (noNumber _ (readInt32?_eq_some_iff.mp found))

theorem digitsDenote_decimal (number : Nat) : DigitsDenote (decimal number).toList number := by
  rw [decimal, String.toList_ofList]
  exact readDigits?_iff_digitsDenote.mp (readDigits?_toDigits number)

/-- What is written for an integer denotes it. -/
theorem denotes_signed (number : Int) : Denotes (signed number).toList number := by
  unfold signed
  split
  · next negative =>
      have magnitude : number = -(number.natAbs : Int) := by omega
      rw [String.toList_append]
      conv => rhs; rw [magnitude]
      exact .minus (digitsDenote_decimal number.natAbs)
  · next positive =>
      have magnitude : number = (number.natAbs : Int) := by omega
      conv => rhs; rw [magnitude]
      exact .unsigned (digitsDenote_decimal number.natAbs)

end PrintProxy.Numeral
