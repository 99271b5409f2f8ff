import PrintProxy.Bytes

/-!
# UTF-8

Texts and the octets that spell them.  `decode?` refuses octets that spell no
text; `decodeRepairing` reads each longest malformed piece, up to where a
well-formed sequence stops being possible, as one replacement character.
Decoding inverts encoding, and what decodes strictly encodes to the same octets.
-/

namespace PrintProxy.Utf8

def encode (text : String) : Bytes := text.toByteArray.data.toList

/-- The text that well-formed octets spell. -/
def decode? (octets : Bytes) : Option String := String.fromUTF8? octets.toByteArray

/-- Any trailing octet of a sequence. -/
def anyTrailing : UInt8 × UInt8 := (0x80, 0xbf)

/-- The ranges that the octets after a given first octet must lie in, or `none` if no sequence
starts with it.  The narrower ranges exclude overlong forms, surrogates and numbers that are no
code point. -/
def trailingRanges (lead : UInt8) : Option (List (UInt8 × UInt8)) :=
  if lead < 0x80 then some []
  else if lead < 0xc2 then none
  else if lead < 0xe0 then some [anyTrailing]
  else if lead = 0xe0 then some [(0xa0, 0xbf), anyTrailing]
  else if lead = 0xed then some [(0x80, 0x9f), anyTrailing]
  else if lead < 0xf0 then some [anyTrailing, anyTrailing]
  else if lead = 0xf0 then some [(0x90, 0xbf), anyTrailing, anyTrailing]
  else if lead < 0xf4 then some [anyTrailing, anyTrailing, anyTrailing]
  else if lead = 0xf4 then some [(0x80, 0x8f), anyTrailing, anyTrailing]
  else none

/-- The octets at the front that lie in the given ranges, one after another. -/
def takeTrailing : List (UInt8 × UInt8) → Bytes → Bytes
  | (low, high) :: ranges, octet :: rest =>
      if low ≤ octet ∧ octet ≤ high then octet :: takeTrailing ranges rest else []
  | _, _ => []

/-- The code point of a well-formed sequence: the low bits of its first octet, then six bits of
each further one. -/
def codePoint (lead : UInt8) (trailing : Bytes) : Char :=
  let leadBits := if trailing.isEmpty then lead.toNat else lead.toNat % (64 >>> trailing.length)
  Char.ofNat (trailing.foldl (fun bits octet => bits * 64 + octet.toNat % 64) leadBits)

/-- The character that stands for octets that spell none. -/
def replacement : Char := '\ufffd'

/-- Reads octets to the end, putting the characters in front of those read before. -/
def repairOnto (readBefore : List Char) : Bytes → List Char
  | [] => readBefore.reverse
  | lead :: rest =>
      match trailingRanges lead with
      | none => repairOnto (replacement :: readBefore) rest
      | some ranges =>
          let trailing := takeTrailing ranges rest
          let character :=
            if trailing.length = ranges.length then codePoint lead trailing else replacement
          repairOnto (character :: readBefore) (rest.drop trailing.length)
termination_by octets => octets.length
decreasing_by
  · exact Nat.lt_succ_self _
  · simp only [List.length_drop, List.length_cons]
    omega

/-- The text of octets, malformed ones replaced. -/
def decodeRepairing (octets : Bytes) : String :=
  match decode? octets with
  | some text => text
  | none => String.ofList (repairOnto [] octets)

@[simp] theorem decode?_encode (text : String) : decode? (encode text) = some text := by
  have sameOctets : (encode text).toByteArray = text.toByteArray := by
    apply ByteArray.ext
    simp [encode, List.data_toByteArray]
  simp only [decode?, sameOctets, String.fromUTF8?, dif_pos text.isValidUTF8]
  rfl

/-- Octets that decode strictly are the encoding of the text they spell. -/
theorem encode_of_decode? {octets : Bytes} {text : String} (decoded : decode? octets = some text) :
    encode text = octets := by
  simp only [decode?, String.fromUTF8?] at decoded
  split at decoded
  · cases decoded
    simp [encode, String.fromUTF8, List.data_toByteArray]
  · cases decoded

/-- No text begins with an octet that no character begins with. -/
theorem decode?_eq_none {lead : UInt8} (noLead : ¬lead.IsUTF8FirstByte) (octets : Bytes) :
    decode? (lead :: octets) = none := by
  have malformed : ¬(lead :: octets).toByteArray.IsValidUTF8 := by
    intro valid
    have first := valid.isUTF8FirstByte_getElem_zero (by simp)
    simp only [ByteArray.getElem_eq_getElem_data, List.data_toByteArray, List.getElem_toArray,
      List.getElem_cons_zero] at first
    exact noLead first
  rw [decode?, String.fromUTF8?, dif_neg malformed]

@[simp] theorem decodeRepairing_encode (text : String) : decodeRepairing (encode text) = text := by
  simp [decodeRepairing]

end PrintProxy.Utf8
