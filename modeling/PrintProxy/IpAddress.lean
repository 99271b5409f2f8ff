import PrintProxy.Text.Numeral

/-!
# IP addresses

Addresses of both protocol versions and their texts.  `parse` takes the strict
forms only: four decimal parts without leading zeros, or eight hexadecimal groups
of which one run of zeros may be left out and the last two may be written as a
decimal address.  `render` writes the canonical form, with the first longest run
of at least two zero groups left out.
-/

namespace PrintProxy

/-- The four octets of an address of version 4. -/
structure Ipv4 where
  first : UInt8
  second : UInt8
  third : UInt8
  fourth : UInt8
deriving DecidableEq, Repr

/-- An address of either version; one of version 6 is its eight groups. -/
inductive IpAddress where
  | v4 (address : Ipv4)
  | v6 (groups : Vector UInt16 8)
deriving DecidableEq, Repr

namespace Ipv4

/-- The decimal parts with points between them. -/
def render (address : Ipv4) : String :=
  ".".intercalate
    ([address.first, address.second, address.third, address.fourth].map fun octet =>
      Numeral.decimal octet.toNat)

/-- An octet in decimal without leading zeros. -/
def parseOctet? (digits : List Char) : Option UInt8 :=
  if 3 < digits.length || (1 < digits.length && digits.head? == some '0') then none
  else (Numeral.readAtMost? 255 digits).map UInt8.ofNat

def parse? (characters : List Char) : Option Ipv4 :=
  match (characters.splitOn '.').mapM parseOctet? with
  | some [first, second, third, fourth] => some ⟨first, second, third, fourth⟩
  | _ => none

/-- The address as two groups of version 6. -/
def groups (address : Ipv4) : List UInt16 :=
  [UInt16.ofNat (address.first.toNat * 256 + address.second.toNat),
    UInt16.ofNat (address.third.toNat * 256 + address.fourth.toNat)]

/-- The address that two groups of version 6 hold. -/
def ofGroups (high low : UInt16) : Ipv4 :=
  ⟨UInt8.ofNat (high.toNat / 256), UInt8.ofNat high.toNat, UInt8.ofNat (low.toNat / 256),
    UInt8.ofNat low.toNat⟩

end Ipv4

namespace IpAddress

/-- The value of a hexadecimal digit in either case. -/
def hexDigit? (character : Char) : Option Nat :=
  if character.isDigit then some (character.toNat - 0x30)
  else if 'a' ≤ character ∧ character ≤ 'f' then some (character.toNat - 0x61 + 10)
  else if 'A' ≤ character ∧ character ≤ 'F' then some (character.toNat - 0x41 + 10)
  else none

/-- A group: one to four hexadecimal digits. -/
def parseGroup? (digits : List Char) : Option UInt16 := do
  if digits.isEmpty || 4 < digits.length then none
  let values ← digits.mapM hexDigit?
  return UInt16.ofNat (values.foldl (fun number digit => number * 16 + digit) 0)

/-- Groups from pieces of text.  The last piece may be an address of version 4 in the place of two
groups, where that is allowed. -/
def parseGroups? (allowsV4 : Bool) : List (List Char) → Option (List UInt16)
  | [] => some []
  | [piece] =>
      match parseGroup? piece with
      | some group => some [group]
      | none => if allowsV4 then (Ipv4.parse? piece).map Ipv4.groups else none
  | piece :: pieces => do
      let group ← parseGroup? piece
      let groups ← parseGroups? allowsV4 pieces
      return group :: groups

/-- Groups with colons between them; no text is no groups. -/
def parseRun? (allowsV4 : Bool) (characters : List Char) : Option (List UInt16) :=
  if characters.isEmpty then some [] else parseGroups? allowsV4 (characters.splitOn ':')

/-- Splits a text at the first `::`. -/
def splitAtGap? (readBefore : List Char) : List Char → Option (List Char × List Char)
  | ':' :: ':' :: rest => some (readBefore.reverse, rest)
  | character :: rest => splitAtGap? (character :: readBefore) rest
  | [] => none

/-- An address of version 6, if there are eight groups. -/
def ofGroups? (groups : List UInt16) : Option IpAddress :=
  if eight : groups.toArray.size = 8 then some (.v6 ⟨groups.toArray, eight⟩) else none

/-- The address of version 6 that a text spells.  A gap stands for at least one group of zero. -/
def parseV6? (characters : List Char) : Option IpAddress :=
  match splitAtGap? [] characters with
  | none => parseRun? true characters >>= ofGroups?
  | some (front, back) => do
      let front ← parseRun? false front
      let back ← parseRun? true back
      if 7 < front.length + back.length then none
      ofGroups? (front ++ List.replicate (8 - front.length - back.length) 0 ++ back)

def parse? (text : String) : Option IpAddress :=
  match Ipv4.parse? text.toList with
  | some address => some (.v4 address)
  | none => parseV6? text.toList

/-- The number of zeros at the front. -/
def zeroRun (groups : List UInt16) : Nat := (groups.takeWhile (· == 0)).length

/-- Where the first longest run of zeros starts, and how long it is. -/
def longestZeroRun (groups : List UInt16) : Nat × Nat :=
  (List.range groups.length).foldl
    (fun best start =>
      let length := zeroRun (groups.drop start)
      if best.2 < length then (start, length) else best)
    (0, 0)

/-- Groups in hexadecimal with colons between them. -/
def renderGroups (groups : List UInt16) : String :=
  ":".intercalate (groups.map fun group => Numeral.hex 1 group.toNat)

/-- The text of eight groups.  An address of version 4 behind `ffff` is written in decimal. -/
def renderV6 (groups : List UInt16) : String :=
  match groups with
  | [0, 0, 0, 0, 0, 0xffff, high, low] => "::ffff:" ++ (Ipv4.ofGroups high low).render
  | _ =>
      let (start, length) := longestZeroRun groups
      if length < 2 then renderGroups groups
      else renderGroups (groups.take start) ++ "::" ++ renderGroups (groups.drop (start + length))

def render : IpAddress → String
  | v4 address => address.render
  | v6 groups => renderV6 groups.toList

end IpAddress

end PrintProxy
