import PrintProxy.Bytes
import PrintProxy.Text.Numeral

/-!
# Faults of the wire format

Every way in which octets fail to be a message, or a message fails to have
octets.
-/

namespace PrintProxy

/-- Why reading or writing the wire format failed. -/
inductive WireFault where
  /-- The input ends where more octets are needed. -/
  | truncated (needed remaining : Nat)
  /-- The octet is no tag of the kind that is expected here. -/
  | unrecognizedTag (code : UInt8)
  /-- The tag's values have a fixed length, and this is another. -/
  | invalidValue (code : UInt8) (length : Nat)
  /-- The octets of an attribute name are not UTF-8. -/
  | invalidName (octets : Bytes)
  /-- A field of the named attribute is longer than its length field can say. -/
  | valueTooLong (name : String) (length : Nat)
deriving DecidableEq, Repr

def WireFault.message : WireFault → String
  | .truncated needed remaining =>
      let wanted := Numeral.decimal needed
      let left := Numeral.decimal remaining
      s!"Truncated message: {wanted} bytes needed, {left} remaining"
  | .unrecognizedTag code => "Unrecognized tag: 0x" ++ Numeral.hex 2 code.toNat
  | .invalidValue code length =>
      let tag := Numeral.hex 2 code.toNat
      let found := Numeral.decimal length
      s!"Invalid value length {found} for tag 0x{tag}"
  | .invalidName octets => "Attribute name is not valid UTF-8: " ++ octets.toHex
  | .valueTooLong name length =>
      let found := Numeral.decimal length
      s!"Length {found} of {name} does not fit the 16-bit length field"

end PrintProxy
