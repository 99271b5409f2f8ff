import Mathlib.Data.String.Basic
import PrintProxy.Bytes
import PrintProxy.Text.Numeral

/-!
# The lengths of texts

A field of a message is measured in octets, its text is built from characters.
A character takes between one octet and four, so that a numeral whose number of
digits is known fits wherever four times as many octets do.
-/

namespace PrintProxy

open String (utf8Len utf8ByteSize_ofList utf8Len_append utf8Len_cons)

theorem utf8Len_toList (text : String) : utf8Len text.toList = text.utf8ByteSize := by
  rw [← utf8ByteSize_ofList, String.ofList_toList]

theorem length_le_utf8Len (characters : List Char) : characters.length ≤ utf8Len characters := by
  induction characters with
  | nil => exact Nat.le_refl 0
  | cons character rest ih =>
      have positive := character.utf8Size_pos
      rw [List.length_cons, utf8Len_cons]
      omega

theorem utf8Len_le_four_mul_length (characters : List Char) :
    utf8Len characters ≤ 4 * characters.length := by
  induction characters with
  | nil => exact Nat.le_refl 0
  | cons character rest ih =>
      have atMostFour := character.utf8Size_le_four
      rw [List.length_cons, utf8Len_cons]
      omega

/-- Splitting characters in two splits their octets in two. -/
theorem utf8Len_takeWhile_add_dropWhile (meant : Char → Bool) (characters : List Char) :
    utf8Len (characters.takeWhile meant) + utf8Len (characters.dropWhile meant) =
      utf8Len characters := by
  rw [← utf8Len_append, List.takeWhile_append_dropWhile]

namespace Numeral

variable {number digits : Nat}

theorem length_padZeros (width : Nat) (characters : List Char) :
    (padZeros width characters).length = max width characters.length := by
  simp only [padZeros, List.length_append, List.length_replicate]
  omega

theorem utf8ByteSize_decimal_le (positive : 0 < digits) (small : number < 10 ^ digits) :
    (decimal number).utf8ByteSize ≤ 4 * digits := by
  have few := (Nat.length_toDigits_le_iff (by decide) positive).mpr small
  have bound := utf8Len_le_four_mul_length (Nat.toDigits 10 number)
  rw [decimal, utf8ByteSize_ofList]
  omega

theorem utf8ByteSize_signed_le {number : Int} (positive : 0 < digits)
    (small : number.natAbs < 10 ^ digits) : (signed number).utf8ByteSize ≤ 4 * digits + 1 := by
  have magnitude := utf8ByteSize_decimal_le positive small
  have sign : "-".utf8ByteSize = 1 := by decide
  rw [signed]
  split
  · rw [String.utf8ByteSize_append]
    omega
  · omega

theorem utf8ByteSize_hex_le (positive : 0 < digits) (small : number < 16 ^ digits) :
    (hex digits number).utf8ByteSize ≤ 4 * digits := by
  have few := (Nat.length_toDigits_le_iff (by decide) positive).mpr small
  have bound := utf8Len_le_four_mul_length (padZeros digits (Nat.toDigits 16 number))
  rw [length_padZeros] at bound
  rw [hex, utf8ByteSize_ofList]
  omega

theorem utf8ByteSize_signed_toInt_le (word : Int32) :
    (signed word.toInt).utf8ByteSize ≤ 4 * 10 + 1 := by
  have least := word.le_toInt
  have greatest := word.toInt_lt
  exact utf8ByteSize_signed_le (by decide) (by omega)

theorem utf8ByteSize_hex_toNat_le (code : UInt16) : (hex 4 code.toNat).utf8ByteSize ≤ 4 * 4 :=
  utf8ByteSize_hex_le (by decide) code.toNat_lt

end Numeral

theorem utf8Size_digitChar_eq_one {digit : Nat} (small : digit < 16) :
    (Nat.digitChar digit).utf8Size = 1 := by
  have each : ∀ digit < 16, (Nat.digitChar digit).utf8Size = 1 := by decide
  exact each digit small

theorem Bytes.utf8ByteSize_toHex (octets : Bytes) :
    octets.toHex.utf8ByteSize = 2 * octets.length := by
  rw [toHex, utf8ByteSize_ofList]
  induction octets with
  | nil => rfl
  | cons octet octets ih =>
      have high : octet.toNat / 16 < 16 := by
        have bounded := octet.toNat_lt
        omega
      have low : octet.toNat % 16 < 16 := Nat.mod_lt _ (by decide)
      rw [List.flatMap_cons, utf8Len_append, ih, List.length_cons, utf8Len_cons, utf8Len_cons,
        utf8Size_digitChar_eq_one high, utf8Size_digitChar_eq_one low]
      simp only [String.utf8Len_nil]
      omega

end PrintProxy
