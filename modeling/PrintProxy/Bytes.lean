/-!
# Byte strings

Wire data is a list of octets.  Numbers travel with the most significant octet
first, in a fixed number of octets.  `toNat_ofNat` and `ofNat_toNat` say that
writing and reading such a number invert each other, and the 16-bit and 32-bit
words of the wire format inherit this.
-/

namespace PrintProxy

abbrev Bytes := List UInt8

namespace Bytes

/-- The lowest `width` base-256 digits of a number, most significant first. -/
def ofNat : (width : Nat) → Nat → Bytes
  | 0, _ => []
  | width + 1, number => ofNat width (number / 256) ++ [UInt8.ofNat number]

/-- How many numbers `width` octets can tell apart. -/
def capacity : (width : Nat) → Nat
  | 0 => 1
  | width + 1 => 256 * capacity width

/-- The number whose base-256 digits are given, most significant first. -/
def toNat (octets : Bytes) : Nat :=
  octets.foldl (fun number octet => number * 256 + octet.toNat) 0

theorem capacity_pos (width : Nat) : 0 < capacity width := by
  induction width with
  | zero => exact Nat.one_pos
  | succ width ih => exact Nat.mul_pos (by decide) ih

@[simp] theorem length_ofNat (width number : Nat) : (ofNat width number).length = width := by
  induction width generalizing number with
  | zero => rfl
  | succ width ih => simp [ofNat, ih]

@[simp] theorem toNat_append_singleton (octets : Bytes) (octet : UInt8) :
    toNat (octets ++ [octet]) = toNat octets * 256 + octet.toNat := by
  simp [toNat]

/-- Reading back a written number keeps its lowest `width` digits. -/
theorem toNat_ofNat (width number : Nat) :
    toNat (ofNat width number) = number % capacity width := by
  induction width generalizing number with
  | zero => simp [ofNat, toNat, capacity, Nat.mod_one]
  | succ width ih =>
      rw [ofNat, toNat_append_singleton, ih, capacity, Nat.mod_mul]
      simp
      omega

/-- Every byte string is the written form of the number it denotes. -/
theorem ofNat_toNat (octets : Bytes) : ofNat octets.length (toNat octets) = octets := by
  suffices statement : ∀ reversed : Bytes,
      ofNat reversed.length (toNat reversed.reverse) = reversed.reverse by
    have atReverse := statement octets.reverse
    simpa using atReverse
  intro reversed
  induction reversed with
  | nil => rfl
  | cons octet rest ih =>
      have octetLt := octet.toNat_lt
      have quotient : (toNat rest.reverse * 256 + octet.toNat) / 256 = toNat rest.reverse := by
        omega
      have remainder : UInt8.ofNat (toNat rest.reverse * 256 + octet.toNat) = octet := by
        apply UInt8.toNat_inj.mp
        simp
      simp only [List.length_cons, List.reverse_cons, toNat_append_singleton, ofNat, quotient,
        remainder, ih]

/-- A denoted number fits the width of its digits. -/
theorem toNat_lt (octets : Bytes) : toNat octets < capacity octets.length := by
  have readBack := toNat_ofNat octets.length (toNat octets)
  rw [ofNat_toNat] at readBack
  rw [readBack]
  exact Nat.mod_lt _ (capacity_pos _)

def ofUInt16 (word : UInt16) : Bytes := ofNat 2 word.toNat

/-- A signed 32-bit word in four octets, in two's complement. -/
def ofInt32 (word : Int32) : Bytes := ofNat 4 word.toUInt32.toNat

def toUInt16 (octets : Bytes) : UInt16 := UInt16.ofNat (toNat octets)

/-- The signed 32-bit word that four octets denote. -/
def toInt32 (octets : Bytes) : Int32 := (UInt32.ofNat (toNat octets)).toInt32

@[simp] theorem length_ofUInt16 (word : UInt16) : (ofUInt16 word).length = 2 := length_ofNat ..

@[simp] theorem length_ofInt32 (word : Int32) : (ofInt32 word).length = 4 := length_ofNat ..

@[simp] theorem toUInt16_ofUInt16 (word : UInt16) : toUInt16 (ofUInt16 word) = word := by
  apply UInt16.toNat_inj.mp
  have wordLt := word.toNat_lt
  simp [toUInt16, ofUInt16, toNat_ofNat, capacity]

@[simp] theorem toInt32_ofInt32 (word : Int32) : toInt32 (ofInt32 word) = word := by
  have wordLt := word.toUInt32.toNat_lt
  simp [toInt32, ofInt32, toNat_ofNat, capacity]

theorem ofUInt16_toUInt16 {octets : Bytes} (twoOctets : octets.length = 2) :
    ofUInt16 (toUInt16 octets) = octets := by
  have bound := toNat_lt octets
  rw [twoOctets] at bound
  simp only [capacity] at bound
  have sameNumber : (UInt16.ofNat (toNat octets)).toNat = toNat octets := by
    simp
    omega
  have written := ofNat_toNat octets
  rw [twoOctets] at written
  simp only [ofUInt16, toUInt16, sameNumber, written]

theorem ofInt32_toInt32 {octets : Bytes} (fourOctets : octets.length = 4) :
    ofInt32 (toInt32 octets) = octets := by
  have bound := toNat_lt octets
  rw [fourOctets] at bound
  simp only [capacity] at bound
  have sameNumber : (UInt32.ofNat (toNat octets)).toNat = toNat octets := by
    simp
    omega
  have written := ofNat_toNat octets
  rw [fourOctets] at written
  simp only [ofInt32, toInt32, UInt32.toUInt32_toInt32, sameNumber, written]

/-- Two lower-case hexadecimal digits for each octet. -/
def toHex (octets : Bytes) : String :=
  String.ofList (octets.flatMap fun octet =>
    [Nat.digitChar (octet.toNat / 16), Nat.digitChar (octet.toNat % 16)])

end Bytes

end PrintProxy
