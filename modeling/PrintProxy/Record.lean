import PrintProxy.Wire.Encode

/-!
# Records

A proxy may keep the messages it exchanges as files in a directory.  The name of
a file says what kind of message it holds, its request id and its code, so the
messages of different exchanges have different names.
-/

namespace PrintProxy

/-- A message as a file. -/
structure Record where
  name : String
  content : Bytes
deriving DecidableEq, Repr

/-- The name of a message's record: its kind, its request id and its code in hexadecimal. -/
def Message.recordName (message : Message) (kind : String) : String :=
  let requestId := Numeral.signed message.header.requestId.toInt
  let code := Numeral.hex 4 message.header.code.toNat
  s!"{kind}-{requestId}-{code}.ipp"

/-- The record of a message, if the message has octets. -/
def Message.record (message : Message) (kind : String) : Except Fault Record :=
  match message.encode with
  | .error fault => .error (.wire fault)
  | .ok content => .ok ⟨message.recordName kind, content⟩

/-- Writes a record into a directory, in the place of one with the same name. -/
def keepRecord (directory : List Record) (record : Record) : List Record :=
  changeFirst (·.name == record.name) (fun _ => record) record directory

end PrintProxy
