import PrintProxy.Header
import PrintProxy.Text.Utf8
import PrintProxy.Wire.Read

/-!
# Fields of the wire format

The smallest pieces of a message: single octets, numbers, octets behind a
16-bit length, attribute names and the header.  A field whose length has been
read stays without it when its octets are missing.
-/

namespace PrintProxy.Wire

def readOctet : Bytes → Read UInt8
  | octet :: rest => .ok octet rest
  | [] => .fault (.truncated 1 0) []

/-- The next octet, left where it is. -/
def peekOctet (input : Bytes) : Except WireFault UInt8 := (readOctet input).result

def readOctets (count : Nat) (input : Bytes) : Read Bytes :=
  let octets := input.take count
  if octets.length = count then .ok octets (input.drop count)
  else .fault (.truncated count octets.length) input

def readUInt16 : Bytes → Read UInt16
  | high :: low :: rest => .ok (Bytes.toUInt16 [high, low]) rest
  | input => .fault (.truncated 2 input.length) input

/-- Octets behind their number. -/
def readField (input : Bytes) : Read Bytes :=
  (readUInt16 input).andThen fun length rest => readOctets length.toNat rest

/-- A text behind the number of its octets. -/
def readName (input : Bytes) : Read String :=
  (readField input).andThen fun octets rest =>
    match Utf8.decode? octets with
    | some name => .ok name rest
    | none => .fault (.invalidName octets) rest

/-- A header; of one that is cut short nothing is taken. -/
def readHeader : Bytes → Read Header
  | major :: minor :: high :: low :: a :: b :: c :: d :: rest =>
      .ok ⟨⟨major, minor⟩, Bytes.toUInt16 [high, low], Bytes.toInt32 [a, b, c, d]⟩ rest
  | input => .fault (.truncated 8 input.length) input

/-- The first octets of a value: its tag and the length of the name before it. -/
structure UnitHead where
  tag : UInt8
  nameLength : UInt16
deriving DecidableEq, Repr

/-- A value without a name belongs to the attribute before it. -/
def UnitHead.isAdditional (head : UnitHead) : Bool := head.nameLength = 0

/-- The head of the next value, left where it is. -/
def peekUnit : Bytes → Option UnitHead
  | tag :: high :: low :: _ => some ⟨tag, Bytes.toUInt16 [high, low]⟩
  | _ => none

def unitHeadLength : Nat := 3

theorem length_rest_of_readOctet {input rest : Bytes} {octet : UInt8}
    (found : readOctet input = .ok octet rest) : rest.length < input.length := by
  cases input with
  | nil => cases found
  | cons first others =>
      cases found
      exact Nat.lt_succ_self _

theorem length_rest_of_readOctets {count : Nat} {input octets rest : Bytes}
    (found : readOctets count input = .ok octets rest) : rest.length ≤ input.length := by
  simp only [readOctets] at found
  split at found
  · cases found
    simp
  · cases found

theorem length_rest_of_readUInt16 {input rest : Bytes} {number : UInt16}
    (found : readUInt16 input = .ok number rest) : rest.length < input.length := by
  unfold readUInt16 at found
  split at found
  · cases found
    simp only [List.length_cons]
    omega
  · cases found

theorem length_rest_of_readField {input octets rest : Bytes}
    (found : readField input = .ok octets rest) : rest.length < input.length := by
  obtain ⟨length, middle, lengthFound, octetsFound⟩ := Read.andThen_eq_ok.mp found
  exact Nat.lt_of_le_of_lt (length_rest_of_readOctets octetsFound)
    (length_rest_of_readUInt16 lengthFound)

theorem length_rest_of_readName {input rest : Bytes} {name : String}
    (found : readName input = .ok name rest) : rest.length < input.length := by
  obtain ⟨octets, middle, octetsFound, nameFound⟩ := Read.andThen_eq_ok.mp found
  split at nameFound
  · cases nameFound
    exact length_rest_of_readField octetsFound
  · cases nameFound

end PrintProxy.Wire
