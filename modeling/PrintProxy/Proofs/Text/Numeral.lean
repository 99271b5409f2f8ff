import PrintProxy.Text.Numeral

/-!
# What numerals are made of

A decimal consists of digits, and a signed one may have a minus sign besides, so
nothing in a numeral is a separator.  Different numbers have different numerals:
what a numeral spells can be read off its digits again.
-/

namespace PrintProxy

theorem ne_of_isDigit {character : Char} (digit : character.isDigit) (other : Char)
    (noDigit : other.isDigit = false) : character ≠ other := by
  rintro rfl
  rw [noDigit] at digit
  cases digit

namespace Numeral

theorem isDigit_of_mem_decimal {number : Nat} {character : Char}
    (member : character ∈ (decimal number).toList) : character.isDigit := by
  rw [decimal, String.toList_ofList] at member
  exact Nat.isDigit_of_mem_toDigits (by decide) (by decide) member

theorem isDigit_or_of_mem_signed {number : Int} {character : Char}
    (member : character ∈ (signed number).toList) : character.isDigit ∨ character = '-' := by
  unfold signed at member
  split at member
  · rw [String.toList_append] at member
    rcases List.mem_append.mp member with sign | isOne
    · exact .inr (List.mem_singleton.mp sign)
    · exact .inl (isDigit_of_mem_decimal isOne)
  · exact .inl (isDigit_of_mem_decimal member)

theorem decimal_inj {number other : Nat} : decimal number = decimal other ↔ number = other := by
  refine ⟨?_, congrArg decimal⟩
  intro same
  have sameDigits : Nat.toDigits 10 number = Nat.toDigits 10 other := String.ofList_inj.mp same
  rw [← Nat.ofDigitChars_ten_toDigits (n := number), sameDigits, Nat.ofDigitChars_ten_toDigits]

/-- No decimal begins with a minus sign. -/
theorem minus_append_ne_decimal (digits : String) (number : Nat) :
    "-" ++ digits ≠ decimal number := by
  intro same
  have inside : '-' ∈ (decimal number).toList := by
    rw [← same, String.toList_append]
    exact List.mem_cons_self
  have digit := isDigit_of_mem_decimal inside
  cases digit

theorem signed_inj {number other : Int} : signed number = signed other ↔ number = other := by
  refine ⟨?_, congrArg signed⟩
  intro same
  unfold signed at same
  split at same <;> split at same
  · have magnitude := decimal_inj.mp ((String.append_right_inj _).mp same)
    omega
  · exact absurd same (minus_append_ne_decimal _ _)
  · exact absurd same.symm (minus_append_ne_decimal _ _)
  · have magnitude := decimal_inj.mp same
    omega

theorem signed_natCast (number : Nat) : signed number = decimal number := by
  rw [signed, if_neg (Int.not_lt.mpr (Int.natCast_nonneg number)), Int.natAbs_natCast]

theorem readAtMost?_eq_none_of_mem {greatest : Nat} {digits : List Char} {character : Char}
    (member : character ∈ digits) (noDigit : character.isDigit = false) :
    readAtMost? greatest digits = none := by
  have noNumber : readDigits? digits = none := by
    rw [readDigits?, if_neg]
    intro spelled
    have digit := List.all_eq_true.mp spelled.2 character member
    rw [noDigit] at digit
    cases digit
  rw [readAtMost?_eq, noNumber]
  rfl

theorem readUInt16?_eq_none_of_mem {text : String} {character : Char}
    (member : character ∈ text.toList) (noDigit : character.isDigit = false)
    (noSign : character ≠ '+') : readUInt16? text = none := by
  rw [readUInt16?, readUnsigned?]
  split
  · next digits signed =>
      rw [signed] at member
      have behind := (List.mem_cons.mp member).resolve_left noSign
      rw [readAtMost?_eq_none_of_mem behind noDigit]
      rfl
  · rw [readAtMost?_eq_none_of_mem member noDigit]
    rfl

/-- What a lower-case hexadecimal digit stands for. -/
def hexDigitValue (digit : Char) : Nat :=
  if digit.isDigit then digit.toNat - '0'.toNat else digit.toNat - 'a'.toNat + 10

def hexValue (digits : List Char) : Nat :=
  digits.foldl (fun number digit => 16 * number + hexDigitValue digit) 0

theorem hexDigitValue_digitChar {digit : Nat} (small : digit < 16) :
    hexDigitValue digit.digitChar = digit := by
  have each : ∀ digit < 16, hexDigitValue (Nat.digitChar digit) = digit := by decide
  exact each digit small

theorem hexValue_toDigits (number : Nat) : hexValue (Nat.toDigits 16 number) = number := by
  induction number using Nat.strongRecOn with
  | ind number ih =>
      rw [Nat.toDigits_eq_if (by decide)]
      split
      · next single => simp [hexValue, hexDigitValue_digitChar single]
      · next several =>
          have front := ih (number / 16) (by omega)
          rw [hexValue] at front ⊢
          rw [List.foldl_append, front, List.foldl_cons, List.foldl_nil,
            hexDigitValue_digitChar (Nat.mod_lt _ (by decide))]
          omega

theorem hexValue_padZeros (width : Nat) (digits : List Char) :
    hexValue (padZeros width digits) = hexValue digits := by
  have zeros (count : Nat) : hexValue (List.replicate count '0') = 0 := by
    induction count with
    | zero => rfl
    | succ count ih => exact ih
  rw [padZeros, hexValue, List.foldl_append]
  exact congrArg (digits.foldl _) (zeros _)

theorem hex_inj {width number other : Nat} : hex width number = hex width other ↔ number = other := by
  refine ⟨?_, congrArg (hex width)⟩
  intro same
  have sameDigits : padZeros width (Nat.toDigits 16 number) = padZeros width (Nat.toDigits 16 other) :=
    String.ofList_inj.mp same
  have sameValue := congrArg hexValue sameDigits
  rwa [hexValue_padZeros, hexValue_padZeros, hexValue_toDigits, hexValue_toDigits] at sameValue

theorem mem_hexDigits_of_mem_hex {width number : Nat} {character : Char}
    (member : character ∈ (hex width number).toList) :
    character ∈ "0123456789abcdef".toList := by
  have inDigits (number : Nat) (inside : character ∈ Nat.toDigits 16 number) :
      character ∈ "0123456789abcdef".toList := by
    have single : ∀ digit < 16, Nat.digitChar digit ∈ "0123456789abcdef".toList := by decide
    induction number using Nat.strongRecOn with
    | ind number ih =>
        rw [Nat.toDigits_eq_if (by decide)] at inside
        split at inside
        · next small =>
            rw [List.mem_singleton.mp inside]
            exact single number small
        · next several =>
            rcases List.mem_append.mp inside with front | last
            · exact ih (number / 16) (by omega) front
            · rw [List.mem_singleton.mp last]
              exact single _ (Nat.mod_lt _ (by decide))
  rw [hex, String.toList_ofList, padZeros] at member
  rcases List.mem_append.mp member with zero | digit
  · rw [(List.mem_replicate.mp zero).2]
    decide
  · exact inDigits number digit

/-- Four digits are enough for a code. -/
theorem length_toDigits_toNat_le (code : UInt16) : (Nat.toDigits 16 code.toNat).length ≤ 4 :=
  (Nat.length_toDigits_le_iff (by decide) (by decide)).mpr code.toNat_lt

/-- Zeros make the digits of a code four. -/
theorem length_hex_toNat (code : UInt16) : (hex 4 code.toNat).toList.length = 4 := by
  have few := length_toDigits_toNat_le code
  rw [hex, String.toList_ofList, padZeros, List.length_append, List.length_replicate]
  omega

end Numeral

end PrintProxy
