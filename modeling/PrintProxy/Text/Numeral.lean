/-!
# Numerals

How numbers are written in texts and read from them: decimals with an optional
sign, decimals and hexadecimals padded with zeros to a least width.  Reading
accepts ASCII digits only and refuses a number that its bounds exclude, so an
oversized numeral never wraps.  `readAtMost?_eq` says that it refuses nothing
else, although it looks at no digit behind the first that is too much.
-/

namespace PrintProxy.Numeral

def decimal (number : Nat) : String := String.ofList (Nat.toDigits 10 number)

/-- The decimal numeral of an integer; only a negative one has a sign. -/
def signed (number : Int) : String :=
  if number < 0 then "-" ++ decimal number.natAbs else decimal number.natAbs

/-- Puts zeros in front of digits until there are at least `width` of them. -/
def padZeros (width : Nat) (digits : List Char) : List Char :=
  List.replicate (width - digits.length) '0' ++ digits

/-- A decimal numeral with at least `width` digits. -/
def padded (width number : Nat) : String :=
  String.ofList (padZeros width (Nat.toDigits 10 number))

/-- A lower-case hexadecimal numeral with at least `width` digits. -/
def hex (width number : Nat) : String :=
  String.ofList (padZeros width (Nat.toDigits 16 number))

/-- One or more ASCII digits, read as a decimal. -/
def readDigits? (digits : List Char) : Option Nat :=
  if digits ≠ [] ∧ digits.all Char.isDigit then some (Nat.ofDigitChars 10 digits 0) else none

/-- Reads on behind digits that spell a number.  The first digit that makes it more than `greatest`
ends the reading, so a numeral of any length is read with small numbers only. -/
def readOnto? (greatest : Nat) : Nat → List Char → Option Nat
  | number, [] => some number
  | number, digit :: rest =>
      let next := 10 * number + (digit.toNat - '0'.toNat)
      if digit.isDigit ∧ next ≤ greatest then readOnto? greatest next rest else none

/-- One or more ASCII digits, read as a decimal of at most `greatest`. -/
def readAtMost? (greatest : Nat) (digits : List Char) : Option Nat :=
  if digits = [] then none else readOnto? greatest 0 digits

/-- Digits after an optional `+`, read as a number of at most `greatest`. -/
def readUnsigned? (greatest : Nat) (text : String) : Option Nat :=
  match text.toList with
  | '+' :: digits => readAtMost? greatest digits
  | digits => readAtMost? greatest digits

/-- Digits after an optional sign, read as a number between `-least` and `greatest`. -/
def readSigned? (least greatest : Nat) (text : String) : Option Int :=
  match text.toList with
  | '+' :: digits => (readAtMost? greatest digits).map Int.ofNat
  | '-' :: digits => (readAtMost? least digits).map fun magnitude => -(magnitude : Int)
  | digits => (readAtMost? greatest digits).map Int.ofNat

def readInt32? (text : String) : Option Int32 :=
  (readSigned? 2147483648 2147483647 text).map Int32.ofInt

def readUInt16? (text : String) : Option UInt16 :=
  (readUnsigned? 65535 text).map UInt16.ofNat

def readUInt64? (text : String) : Option UInt64 :=
  (readUnsigned? 18446744073709551615 text).map UInt64.ofNat

/-- More digits never make a number smaller. -/
theorem le_ofDigitChars (digits : List Char) (number : Nat) :
    number ≤ Nat.ofDigitChars 10 digits number := by
  induction digits generalizing number with
  | nil => exact Nat.le_refl number
  | cons digit rest ih =>
      have behind := ih (10 * number + (digit.toNat - '0'.toNat))
      rw [Nat.ofDigitChars_cons]
      omega

/-- Reading on ends early only where the whole number is too great. -/
theorem readOnto?_eq {greatest number : Nat} (inBounds : number ≤ greatest)
    (digits : List Char) :
    readOnto? greatest number digits =
      if digits.all Char.isDigit ∧ Nat.ofDigitChars 10 digits number ≤ greatest then
        some (Nat.ofDigitChars 10 digits number)
      else none := by
  induction digits generalizing number with
  | nil => simp [readOnto?, inBounds]
  | cons digit rest ih =>
      have behind := le_ofDigitChars rest (10 * number + (digit.toNat - '0'.toNat))
      rw [readOnto?, Nat.ofDigitChars_cons]
      split
      next goesOn => rw [ih goesOn.2]; simp only [List.all_cons, goesOn.1, Bool.true_and]
      next stops =>
        rw [if_neg]
        intro whole
        rw [List.all_cons, Bool.and_eq_true] at whole
        exact stops ⟨whole.1.1, Nat.le_trans behind whole.2⟩

/-- Reading with a bound is reading without one, and a look at the number. -/
theorem readAtMost?_eq (greatest : Nat) (digits : List Char) :
    readAtMost? greatest digits = (readDigits? digits).filter (· ≤ greatest) := by
  unfold readAtMost? readDigits?
  rw [readOnto?_eq (Nat.zero_le greatest)]
  by_cases noDigits : digits = []
  · simp [noDigits]
  · by_cases allDigits : digits.all Char.isDigit = true
    · by_cases inBounds : Nat.ofDigitChars 10 digits 0 ≤ greatest
      · simp [noDigits, allDigits, inBounds, Option.filter_some]
      · simp [noDigits, allDigits, inBounds, Option.filter_some]
    · simp [noDigits, allDigits]

/-- Reading digits just written gives the number back. -/
theorem readDigits?_toDigits (number : Nat) :
    readDigits? (Nat.toDigits 10 number) = some number := by
  have allDigits : (Nat.toDigits 10 number).all Char.isDigit = true := by
    rw [List.all_eq_true]
    intro digit member
    exact Nat.isDigit_of_mem_toDigits (by decide) (by decide) member
  simp [readDigits?, Nat.toDigits_ne_nil, allDigits, Nat.ofDigitChars_ten_toDigits]

end PrintProxy.Numeral
