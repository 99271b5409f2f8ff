import PrintProxy.DelimiterTag

/-!
# Value tags

The octets 0x10 to 0xff name the syntax of a value.  They fall into five
ranges; a code without a syntax of its own is kept by its range.  A tag is
*canonical* when its code is looked up as the tag itself: `reserved 33` is not,
since 33 is the code of `integer`.  `ofCode?_eq_some_iff` says that looking up a
code yields exactly the canonical tag with this code.
-/

namespace PrintProxy

/-- The syntax of an attribute value. -/
inductive ValueTag where
  | unsupported
  | default
  | unknown
  | noValue
  | notSettable
  | deleteAttribute
  | adminDefine
  /-- An out-of-band code without a meaning of its own. -/
  | outOfBand (code : UInt8)
  | genericInteger
  | integer
  | boolean
  | enum
  /-- An integer code without a syntax of its own. -/
  | integerType (code : UInt8)
  | octetString
  | dateTime
  | resolution
  | rangeOfInteger
  | begCollection
  | textWithLanguage
  | nameWithLanguage
  | endCollection
  /-- An octet-string code without a syntax of its own. -/
  | octetStringType (code : UInt8)
  | textWithoutLanguage
  | nameWithoutLanguage
  | keyword
  | uri
  | uriScheme
  | charset
  | naturalLanguage
  | mimeMediaType
  | memberAttrName
  /-- A character-string code without a syntax of its own. -/
  | characterStringType (code : UInt8)
  /-- A code outside the ranges of the syntaxes. -/
  | reserved (code : UInt8)
deriving DecidableEq, Repr

namespace ValueTag

def code : ValueTag → UInt8
  | unsupported => 0x10
  | default => 0x11
  | unknown => 0x12
  | noValue => 0x13
  | notSettable => 0x15
  | deleteAttribute => 0x16
  | adminDefine => 0x17
  | genericInteger => 0x20
  | integer => 0x21
  | boolean => 0x22
  | enum => 0x23
  | octetString => 0x30
  | dateTime => 0x31
  | resolution => 0x32
  | rangeOfInteger => 0x33
  | begCollection => 0x34
  | textWithLanguage => 0x35
  | nameWithLanguage => 0x36
  | endCollection => 0x37
  | textWithoutLanguage => 0x41
  | nameWithoutLanguage => 0x42
  | keyword => 0x44
  | uri => 0x45
  | uriScheme => 0x46
  | charset => 0x47
  | naturalLanguage => 0x48
  | mimeMediaType => 0x49
  | memberAttrName => 0x4a
  | outOfBand code | integerType code | octetStringType code | characterStringType code
  | reserved code => code

/-- The tags with a meaning of their own, in the order of their codes. -/
def assigned : List ValueTag :=
  [unsupported, default, unknown, noValue, notSettable, deleteAttribute, adminDefine,
    genericInteger, integer, boolean, enum,
    octetString, dateTime, resolution, rangeOfInteger, begCollection, textWithLanguage,
    nameWithLanguage, endCollection,
    textWithoutLanguage, nameWithoutLanguage, keyword, uri, uriScheme, charset, naturalLanguage,
    mimeMediaType, memberAttrName]

/-- The tag that keeps an unassigned code in its range. -/
def unassigned (code : UInt8) : ValueTag :=
  if code < 0x20 then outOfBand code
  else if code < 0x30 then integerType code
  else if code < 0x40 then octetStringType code
  else if code < 0x60 then characterStringType code
  else reserved code

/-- The tag of an octet; delimiters have none. -/
def ofCode? (code : UInt8) : Option ValueTag :=
  if DelimiterTag.isDelimiterCode code then none
  else some ((assigned.find? (·.code == code)).getD (unassigned code))

/-- The tag of an octet; a delimiter is a fault. -/
def ofCode (code : UInt8) : Except WireFault ValueTag :=
  match ofCode? code with
  | some tag => .ok tag
  | none => .error (.unrecognizedTag code)

/-- Whether looking up the tag's code gives the tag. -/
def IsCanonical (tag : ValueTag) : Prop := ofCode? tag.code = some tag

instance (tag : ValueTag) : Decidable tag.IsCanonical :=
  inferInstanceAs (Decidable (ofCode? tag.code = some tag))

/-- Values of these tags are marks without content. -/
def isOutOfBand (tag : ValueTag) : Bool := 0x10 ≤ tag.code && tag.code ≤ 0x1f

def isInteger (tag : ValueTag) : Bool := 0x20 ≤ tag.code && tag.code ≤ 0x2f

def isOctetString (tag : ValueTag) : Bool := 0x30 ≤ tag.code && tag.code ≤ 0x3f

def isCharacterString (tag : ValueTag) : Bool := 0x40 ≤ tag.code && tag.code ≤ 0x5f

def isReserved (tag : ValueTag) : Bool := 0x60 ≤ tag.code

/-- The name of a syntax in the protocol, or its code if it has none. -/
def name : ValueTag → String
  | unsupported => "unsupported"
  | default => "default"
  | unknown => "unknown"
  | noValue => "no-value"
  | notSettable => "not-settable"
  | deleteAttribute => "delete-attribute"
  | adminDefine => "admin-define"
  | genericInteger => "integer-type"
  | integer => "integer"
  | boolean => "boolean"
  | enum => "enum"
  | octetString => "octetString"
  | dateTime => "dateTime"
  | resolution => "resolution"
  | rangeOfInteger => "rangeOfInteger"
  | begCollection => "begCollection"
  | textWithLanguage => "textWithLanguage"
  | nameWithLanguage => "nameWithLanguage"
  | endCollection => "endCollection"
  | textWithoutLanguage => "textWithoutLanguage"
  | nameWithoutLanguage => "nameWithoutLanguage"
  | keyword => "keyword"
  | uri => "uri"
  | uriScheme => "uriScheme"
  | charset => "charset"
  | naturalLanguage => "naturalLanguage"
  | mimeMediaType => "mimeMediaType"
  | memberAttrName => "memberAttrName"
  | outOfBand code | integerType code | octetStringType code | characterStringType code
  | reserved code => "tag-0x" ++ Numeral.hex 2 code.toNat

theorem code_unassigned (code : UInt8) : (unassigned code).code = code := by
  unfold unassigned
  split <;> (try split) <;> (try split) <;> (try split) <;> rfl

theorem code_of_ofCode? {code : UInt8} {tag : ValueTag} (found : ofCode? code = some tag) :
    tag.code = code := by
  unfold ofCode? at found
  split at found
  · cases found
  · cases search : assigned.find? (·.code == code) with
    | none =>
        rw [search] at found
        cases found
        exact code_unassigned code
    | some assignedTag =>
        rw [search] at found
        cases found
        simpa using List.find?_some search

/-- Looking up a code yields the canonical tag with this code. -/
theorem ofCode?_eq_some_iff {code : UInt8} {tag : ValueTag} :
    ofCode? code = some tag ↔ tag.code = code ∧ tag.IsCanonical := by
  constructor
  · intro found
    have sameCode := code_of_ofCode? found
    exact ⟨sameCode, by rw [IsCanonical, sameCode, found]⟩
  · rintro ⟨rfl, canonical⟩
    exact canonical

/-- Exactly the delimiters have no value tag. -/
theorem ofCode?_eq_none_iff {code : UInt8} :
    ofCode? code = none ↔ DelimiterTag.isDelimiterCode code = true := by
  simp [ofCode?]

end ValueTag

end PrintProxy
