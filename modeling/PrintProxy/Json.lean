import PrintProxy.Text.Utf8

/-!
# JSON values

Values of the JSON data format, and readers that take the shapes in which
messages and configurations are stored.  A structure is an object with at least
its fields, or an array of exactly their values; a choice is its label, or an
object with the label as its only field and the content there.
-/

namespace PrintProxy

/-- A JSON value. -/
inductive Json where
  | null
  | boolean (truth : Bool)
  | integer (number : Int)
  /-- A number written with decimal places or an exponent. -/
  | decimal (mantissa : Int) (places : Nat)
  | string (content : String)
  | array (items : List Json)
  | object (fields : List (String × Json))
deriving Inhabited

namespace Json

/-- A number between bounds. -/
def integer? (least greatest : Int) : Json → Option Int
  | integer number => if least ≤ number ∧ number ≤ greatest then some number else none
  | _ => none

/-- A number from zero up to a bound. -/
def natural? (greatest : Nat) (json : Json) : Option Nat :=
  (json.integer? 0 greatest).map Int.toNat

def uInt8? (json : Json) : Option UInt8 := (json.natural? 255).map UInt8.ofNat

def uInt16? (json : Json) : Option UInt16 := (json.natural? 65535).map UInt16.ofNat

def uInt32? (json : Json) : Option UInt32 := (json.natural? 4294967295).map UInt32.ofNat

def uInt64? (json : Json) : Option UInt64 :=
  (json.natural? 18446744073709551615).map UInt64.ofNat

def int32? (json : Json) : Option Int32 :=
  (json.integer? (-2147483648) 2147483647).map Int32.ofInt

def boolean? : Json → Option Bool
  | boolean truth => some truth
  | _ => none

def string? : Json → Option String
  | string content => some content
  | _ => none

def list? {α : Type} (item? : Json → Option α) : Json → Option (List α)
  | array items => items.mapM item?
  | _ => none

/-- Octets, as a list of numbers or as the text that they spell. -/
def bytes? : Json → Option Bytes
  | string content => some (Utf8.encode content)
  | json => json.list? uInt8?

def ofBytes (octets : Bytes) : Json := array (octets.map fun octet => integer octet.toNat)

/-- The value of a field. -/
def field? (name : String) (fields : List (String × Json)) : Option Json := fields.lookup name

/-- The values of a structure's fields, in the order of the given names. -/
def fields? (names : List String) : Json → Option (List Json)
  | object fields => names.mapM fun name => field? name fields
  | array items => if items.length = names.length then some items else none
  | _ => none

/-- The values of a structure's fields, if an object has no others. -/
def onlyFields? (names : List String) (json : Json) : Option (List Json) :=
  match json with
  | object fields =>
      if fields.all fun field => names.contains field.1 then json.fields? names else none
  | _ => json.fields? names

/-- The label and the content of a choice; a bare label has no content. -/
def choice? : Json → Option (String × Json)
  | string label => some (label, null)
  | object [(label, content)] => some (label, content)
  | _ => none

/-- A choice without content, looked up among all by its label. -/
def plainChoice? {α : Type} (all : List α) (label : α → String) (json : Json) : Option α :=
  match json.choice? with
  | some (found, null) => all.find? (label · == found)
  | _ => none

end Json

end PrintProxy
