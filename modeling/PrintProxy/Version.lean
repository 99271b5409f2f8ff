import PrintProxy.Bytes
import PrintProxy.Text.Numeral

/-!
# Protocol versions
-/

namespace PrintProxy

/-- A protocol version; on the wire each part is one octet. -/
structure Version where
  major : UInt8
  minor : UInt8
deriving DecidableEq, Repr

namespace Version

def v1_0 : Version := ⟨1, 0⟩
def v1_1 : Version := ⟨1, 1⟩
def v2_0 : Version := ⟨2, 0⟩
def v2_1 : Version := ⟨2, 1⟩
def v2_2 : Version := ⟨2, 2⟩

/-- The version that requests are made with. -/
def current : Version := v2_0

/-- Both parts as one word. -/
def word (version : Version) : UInt16 := Bytes.toUInt16 [version.major, version.minor]

/-- The version whose parts are the halves of a word. -/
def ofWord (word : UInt16) : Version := ⟨UInt8.ofNat (word.toNat / 256), UInt8.ofNat word.toNat⟩

def render (version : Version) : String :=
  Numeral.decimal version.major.toNat ++ "." ++ Numeral.decimal version.minor.toNat

end Version

end PrintProxy
