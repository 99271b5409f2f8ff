import PrintProxy.ValueTag
import PrintProxy.Text.Utf8

/-!
# Attribute values

A typed value is what the octets of an attribute mean under a value tag.  Ten
syntaxes hold a text; they share one constructor, indexed by the syntax.  A tag
whose values have no meaning here keeps them as octets.

`parse` reads octets under a tag, `toBytes` writes them and `tag` says under
which tag they are to be read.
-/

namespace PrintProxy

/-- A syntax whose values are texts. -/
inductive TextSyntax where
  | octetString
  | textWithoutLanguage
  | nameWithoutLanguage
  | charset
  | naturalLanguage
  | uri
  | uriScheme
  | keyword
  | mimeMediaType
  | memberAttrName
deriving DecidableEq, Repr

def TextSyntax.tag : TextSyntax → ValueTag
  | .octetString => .octetString
  | .textWithoutLanguage => .textWithoutLanguage
  | .nameWithoutLanguage => .nameWithoutLanguage
  | .charset => .charset
  | .naturalLanguage => .naturalLanguage
  | .uri => .uri
  | .uriScheme => .uriScheme
  | .keyword => .keyword
  | .mimeMediaType => .mimeMediaType
  | .memberAttrName => .memberAttrName

/-- A date and time of day with its distance from universal time. -/
structure DateTime where
  year : UInt16
  month : UInt8
  day : UInt8
  hour : UInt8
  minutes : UInt8
  seconds : UInt8
  deciSeconds : UInt8
  /-- The octet of `+` or `-`, as it stands on the wire. -/
  utcDirection : UInt8
  utcHours : UInt8
  utcMinutes : UInt8
deriving DecidableEq, Repr

inductive Value where
  | integer (number : Int32)
  | enum (number : Int32)
  | boolean (truth : Bool)
  | rangeOfInteger (least greatest : Int32)
  | resolution (crossFeed feed : Int32) (units : Int8)
  | dateTime (moment : DateTime)
  | text (kind : TextSyntax) (content : String)
  | noValue
  /-- Octets under a tag that gives them no meaning here. -/
  | other (tag : ValueTag) (octets : Bytes)
deriving DecidableEq, Repr

namespace Value

def keyword (content : String) : Value := .text .keyword content

def uri (content : String) : Value := .text .uri content

def nameWithoutLanguage (content : String) : Value := .text .nameWithoutLanguage content

def textWithoutLanguage (content : String) : Value := .text .textWithoutLanguage content

/-- The tag that a value is written with. -/
def tag : Value → ValueTag
  | integer _ => .integer
  | enum _ => .enum
  | boolean _ => .boolean
  | rangeOfInteger _ _ => .rangeOfInteger
  | resolution _ _ _ => .resolution
  | dateTime _ => .dateTime
  | text kind _ => kind.tag
  | noValue => .noValue
  | other tag _ => tag

def content? : Value → Option String
  | text _ content => some content
  | _ => none

/-- The octets of a value, without its tag and length. -/
def toBytes : Value → Bytes
  | integer number | enum number => Bytes.ofInt32 number
  | boolean truth => [if truth then 1 else 0]
  | rangeOfInteger least greatest => Bytes.ofInt32 least ++ Bytes.ofInt32 greatest
  | resolution crossFeed feed units =>
      Bytes.ofInt32 crossFeed ++ Bytes.ofInt32 feed ++ [units.toUInt8]
  | dateTime moment =>
      Bytes.ofUInt16 moment.year ++
        [moment.month, moment.day, moment.hour, moment.minutes, moment.seconds,
          moment.deciSeconds, moment.utcDirection, moment.utcHours, moment.utcMinutes]
  | text _ content => Utf8.encode content
  | noValue => []
  | other _ octets => octets

end Value

namespace ValueTag

/-- The text syntax that a tag names. -/
def textSyntax? : ValueTag → Option TextSyntax
  | octetString => some .octetString
  | textWithoutLanguage => some .textWithoutLanguage
  | nameWithoutLanguage => some .nameWithoutLanguage
  | charset => some .charset
  | naturalLanguage => some .naturalLanguage
  | uri => some .uri
  | uriScheme => some .uriScheme
  | keyword => some .keyword
  | mimeMediaType => some .mimeMediaType
  | memberAttrName => some .memberAttrName
  | _ => none

/-- The number of octets of every value under a tag, for the tags that fix it. -/
def fixedLength? : ValueTag → Option Nat
  | integer | enum => some 4
  | boolean => some 1
  | rangeOfInteger => some 8
  | resolution => some 9
  | dateTime => some 11
  | _ => none

end ValueTag

namespace Value

/-- The value of octets whose number the tag fixes, if they are that many. -/
def parseFixed? : ValueTag → Bytes → Option Value
  | .integer, [a, b, c, d] => some (.integer (Bytes.toInt32 [a, b, c, d]))
  | .enum, [a, b, c, d] => some (.enum (Bytes.toInt32 [a, b, c, d]))
  | .boolean, [octet] => some (.boolean (octet != 0))
  | .rangeOfInteger, [a, b, c, d, e, f, g, h] =>
      some (.rangeOfInteger (Bytes.toInt32 [a, b, c, d]) (Bytes.toInt32 [e, f, g, h]))
  | .resolution, [a, b, c, d, e, f, g, h, units] =>
      some (.resolution (Bytes.toInt32 [a, b, c, d]) (Bytes.toInt32 [e, f, g, h]) units.toInt8)
  | .dateTime, [a, b, month, day, hour, minutes, seconds, deciSeconds, utcDirection, utcHours,
      utcMinutes] =>
      some (.dateTime
        { year := Bytes.toUInt16 [a, b], month, day, hour, minutes, seconds, deciSeconds,
          utcDirection, utcHours, utcMinutes })
  | _, _ => none

/-- The value that octets have under a tag.  Only a wrong length is a fault: octets of a text
syntax that are no text are repaired, and those of `no-value` are dropped. -/
def parse (tag : ValueTag) (octets : Bytes) : Except WireFault Value :=
  match tag.fixedLength? with
  | some _ =>
      match parseFixed? tag octets with
      | some value => .ok value
      | none => .error (.invalidValue tag.code octets.length)
  | none =>
      match tag.textSyntax? with
      | some kind => .ok (.text kind (Utf8.decodeRepairing octets))
      | none => .ok (if tag = .noValue then .noValue else .other tag octets)

end Value

end PrintProxy
