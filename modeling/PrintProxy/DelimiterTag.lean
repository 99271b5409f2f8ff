import PrintProxy.WireFault

/-!
# Delimiter tags

The octets 0x00 to 0x0f separate the groups of a message.  Ten of them are
assigned: nine open a group and one ends the attributes.  `ofCode?_eq_some_iff`
says that looking up a code inverts `code`.
-/

namespace PrintProxy

/-- An assigned delimiter. -/
inductive DelimiterTag where
  | operationAttributes
  | jobAttributes
  | endOfAttributes
  | printerAttributes
  | unsupportedAttributes
  | subscriptionAttributes
  | eventNotificationAttributes
  | resourceAttributes
  | documentAttributes
  | systemAttributes
deriving DecidableEq, Repr

namespace DelimiterTag

def code : DelimiterTag → UInt8
  | operationAttributes => 0x01
  | jobAttributes => 0x02
  | endOfAttributes => 0x03
  | printerAttributes => 0x04
  | unsupportedAttributes => 0x05
  | subscriptionAttributes => 0x06
  | eventNotificationAttributes => 0x07
  | resourceAttributes => 0x08
  | documentAttributes => 0x09
  | systemAttributes => 0x0a

def all : List DelimiterTag :=
  [operationAttributes, jobAttributes, endOfAttributes, printerAttributes, unsupportedAttributes,
    subscriptionAttributes, eventNotificationAttributes, resourceAttributes, documentAttributes,
    systemAttributes]

def name : DelimiterTag → String
  | operationAttributes => "operation-attributes-tag"
  | jobAttributes => "job-attributes-tag"
  | endOfAttributes => "end-of-attributes-tag"
  | printerAttributes => "printer-attributes-tag"
  | unsupportedAttributes => "unsupported-attributes-tag"
  | subscriptionAttributes => "subscription-attributes-tag"
  | eventNotificationAttributes => "event-notification-attributes-tag"
  | resourceAttributes => "resource-attributes-tag"
  | documentAttributes => "document-attributes-tag"
  | systemAttributes => "system-attributes-tag"

/-- The delimiter with a code, if it is assigned. -/
def ofCode? (code : UInt8) : Option DelimiterTag := all.find? (·.code == code)

/-- The delimiter with a code; any other octet is a fault. -/
def ofCode (code : UInt8) : Except WireFault DelimiterTag :=
  match ofCode? code with
  | some tag => .ok tag
  | none => .error (.unrecognizedTag code)

/-- Whether an octet lies among the delimiters, assigned or not. -/
def isDelimiterCode (code : UInt8) : Bool := code ≤ 0x0f

theorem ofCode?_code (tag : DelimiterTag) : ofCode? tag.code = some tag := by
  cases tag <;> decide

theorem ofCode?_eq_some_iff {code : UInt8} {tag : DelimiterTag} :
    ofCode? code = some tag ↔ tag.code = code := by
  constructor
  · intro found
    simpa using List.find?_some found
  · rintro rfl
    exact ofCode?_code tag

theorem isDelimiterCode_code (tag : DelimiterTag) : isDelimiterCode tag.code = true := by
  cases tag <;> decide

end DelimiterTag

end PrintProxy
