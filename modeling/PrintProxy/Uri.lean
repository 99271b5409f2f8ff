import PrintProxy.Uri.Authority

/-!
# URI references

A URI reference is a whole URI, a bare authority, a path with an optional query,
or `*`.  A scheme demands an authority.  Fragments are dropped.  The path is
kept as it was written: before a query it may be empty, which `path` shows as
`/`.
-/

namespace PrintProxy

/-- A URI reference in its parts. -/
structure Uri where
  scheme : Option String
  authority : Option Authority
  /-- The path as written; it may be empty in a bare authority and between an authority and a
  query. -/
  writtenPath : String
  query : Option String
deriving DecidableEq, Repr

namespace Uri

/-- The most octets that a URI reference may have. -/
def greatestLength : Nat := 65534

def greatestSchemeLength : Nat := 64

def isSchemeCharacter (character : Char) : Bool :=
  character.isAlphanum || "+-.~".toList.contains character

/-- The characters of a path; those outside ASCII stand for themselves. -/
def isPathCharacter (character : Char) : Bool :=
  let number := character.toNat
  number = 0x21 || (0x24 ≤ number && number ≤ 0x3b) || number = 0x3d ||
    (0x40 ≤ number && number ≤ 0x5f) || (0x61 ≤ number && number ≤ 0x7a) || number = 0x7c ||
    number = 0x7e || character = '"' || character = '\x7b' || character = '\x7d' || 0x80 ≤ number

/-- The characters of a query; those outside ASCII stand for themselves. -/
def isQueryCharacter (character : Char) : Bool :=
  let number := character.toNat
  number = 0x21 || (0x24 ≤ number && number ≤ 0x3b) || number = 0x3d ||
    (0x3f ≤ number && number ≤ 0x7e) || 0x80 ≤ number

/-- A known scheme with `://` behind it, in lower case; the front of a text is compared with it
whatever its case. -/
def hasFront (front : String) (characters : List Char) : Bool :=
  (characters.take front.toList.length).map Char.toLower == front.toList

/-- Splits off a scheme and the `://` behind it.  The schemes `http` and `https` are taken in any
case; every other keeps its case and may even be empty. -/
def splitScheme (characters : List Char) : Except UriFault (Option String × List Char) :=
  if hasFront "http://" characters then .ok (some "http", characters.drop 7)
  else if hasFront "https://" characters then .ok (some "https", characters.drop 8)
  else if characters.length ≤ 3 then .ok (none, characters)
  else
    let scheme := characters.takeWhile isSchemeCharacter
    match characters.dropWhile isSchemeCharacter with
    | ':' :: '/' :: '/' :: rest =>
        if greatestSchemeLength < scheme.length then .error .schemeTooLong
        else .ok (some (String.ofList scheme), rest)
    | _ => .ok (none, characters)

/-- Reads a path and what may follow it; the fragment is dropped. -/
def splitPath (characters : List Char) : Except UriFault (String × Option String) := do
  let path := characters.takeWhile fun character => character != '?' && character != '#'
  if !path.all isPathCharacter then .error .invalidCharacter
  match characters.dropWhile fun character => character != '?' && character != '#' with
  | '?' :: rest =>
      let query := rest.takeWhile (· != '#')
      if !query.all isQueryCharacter then .error .invalidCharacter
      return (String.ofList path, some (String.ofList query))
  | _ => return (String.ofList path, none)

/-- Reads a URI reference that does not start with its path. -/
def parseFromScheme (characters : List Char) : Except UriFault Uri := do
  let (scheme, rest) ← splitScheme characters
  if rest.isEmpty then .error .empty
  let (authority, rest) ← Authority.split rest
  match scheme with
  | none =>
      if !rest.isEmpty then .error .invalidFormat
      return ⟨none, some ⟨String.ofList authority⟩, "", none⟩
  | some scheme =>
      if authority.isEmpty then .error .invalidFormat
      let (path, query) ← splitPath rest
      let path := if path.isEmpty && query.isNone then "/" else path
      return ⟨some scheme, some ⟨String.ofList authority⟩, path, query⟩

def parse (text : String) : Except UriFault Uri :=
  if greatestLength < text.utf8ByteSize then .error .tooLong
  else
    match text.toList with
    | [] => .error .empty
    | ['*'] => .ok ⟨none, none, "*", none⟩
    | '/' :: rest => do
        let (path, query) ← splitPath ('/' :: rest)
        return ⟨none, none, path, query⟩
    | [character] => do
        let authority ← Authority.parse (String.singleton character)
        return ⟨none, some authority, "", none⟩
    | characters => parseFromScheme characters

/-- The path; an empty one behind a scheme is the root. -/
def path (uri : Uri) : String :=
  if uri.writtenPath.isEmpty && uri.scheme.isSome then "/" else uri.writtenPath

def host? (uri : Uri) : Option String := uri.authority.map Authority.host

/-- The server's port, if one is given that is a 16-bit number. -/
def port? (uri : Uri) : Option UInt16 := uri.authority.bind Authority.port?

/-- A query behind its mark. -/
def renderQuery (uri : Uri) : String :=
  match uri.query with
  | some query => "?" ++ query
  | none => ""

/-- Scheme and authority, as far as they are given. -/
def renderServer (uri : Uri) : String :=
  (match uri.scheme with | some scheme => scheme ++ "://" | none => "") ++
    (match uri.authority with | some authority => authority.text | none => "")

def render (uri : Uri) : String := uri.renderServer ++ uri.path ++ uri.renderQuery

def writtenPathAndQuery (uri : Uri) : String := uri.writtenPath ++ uri.renderQuery

end Uri

end PrintProxy
