import PrintProxy.Uri.Fault
import PrintProxy.Text.Numeral

/-!
# Authorities

The part of a URI that names a server: optional user information before an
`@`, a host and an optional port after a `:`.  An authority keeps the text it
was written as, and its parts are read off that text.

Reading walks over the characters once.  Colons count and a percent sign is
remembered until an `@` or a closing bracket shows that they stood in the user
information or in a bracketed address.
-/

namespace PrintProxy

/-- The text of a server's name in a URI. -/
structure Authority where
  text : String
deriving DecidableEq, Repr

namespace Authority

/-- Whether a character begins what follows an authority. -/
def isTerminator (character : Char) : Bool :=
  character = '/' || character = '?' || character = '#'

/-- The characters without a part of their own in an authority. -/
def isPlain (character : Char) : Bool :=
  character.isAlphanum || "!$&'()*+,-.;=_~".toList.contains character

/-- The number of colons an authority may have in a row of parts: a bracketed address with eight
groups, and a port. -/
def greatestColonCount : Nat := 8

/-- What reading has seen of an authority. -/
structure Progress where
  /-- Colons since the start, the last `@` or the last closing bracket. -/
  colons : Nat := 0
  opened : Bool := false
  closed : Bool := false
  /-- Whether a percent sign stands after the last `@` or closing bracket. -/
  percent : Bool := false
  /-- Whether the last character is an `@`. -/
  atSign : Bool := false
deriving DecidableEq, Repr

def Progress.step (progress : Progress) (character : Char) : Except UriFault Progress :=
  let progress := { progress with atSign := false }
  if character = ':' then
    if greatestColonCount ≤ progress.colons then .error .invalidAuthority
    else .ok { progress with colons := progress.colons + 1 }
  else if character = '[' then
    if progress.percent || progress.opened then .error .invalidAuthority
    else .ok { progress with opened := true }
  else if character = ']' then
    if !progress.opened || progress.closed then .error .invalidAuthority
    else .ok { progress with closed := true, colons := 0, percent := false }
  else if character = '@' then
    .ok { progress with atSign := true, colons := 0, percent := false }
  else if character = '%' then .ok { progress with percent := true }
  else if isPlain character then .ok progress
  else .error .invalidCharacter

/-- Whether an authority may end here. -/
def Progress.isComplete (progress : Progress) : Bool :=
  progress.opened == progress.closed && progress.colons ≤ 1 && !progress.atSign &&
    !progress.percent

/-- Whether characters are an authority, and if not, why. -/
def check (characters : List Char) : Except UriFault Unit := do
  let progress ← characters.foldlM Progress.step {}
  if progress.isComplete then return () else .error .invalidAuthority

/-- Splits characters behind the authority at their front, which may be empty. -/
def split (characters : List Char) : Except UriFault (List Char × List Char) := do
  let front := characters.takeWhile (!isTerminator ·)
  check front
  return (front, characters.dropWhile (!isTerminator ·))

/-- The authority that a whole text is. -/
def parse (text : String) : Except UriFault Authority := do
  if text.toList.isEmpty then .error .empty
  let (_, rest) ← split text.toList
  if rest.isEmpty then return ⟨text⟩ else .error .invalidCharacter

/-- The characters before the last occurrence of a separator, if there is one. -/
def beforeLast? (separator : Char) (characters : List Char) : Option (List Char) :=
  match characters.reverse.dropWhile (· != separator) with
  | [] => none
  | _ :: front => some front.reverse

/-- The characters after the last occurrence of a separator, all if there is none. -/
def afterLast (separator : Char) (characters : List Char) : List Char :=
  (characters.reverse.takeWhile (· != separator)).reverse

/-- What stands before the last `@`. -/
def userInfo? (authority : Authority) : Option String :=
  (beforeLast? '@' authority.text.toList).map String.ofList

/-- Host and port: what stands after the last `@`. -/
def hostPort (authority : Authority) : List Char := afterLast '@' authority.text.toList

/-- The host: a bracketed address with its brackets, or what stands before the first colon. -/
def host (authority : Authority) : String :=
  match authority.hostPort with
  | '[' :: rest => String.ofList ('[' :: rest.takeWhile (· != ']') ++ [']'])
  | plain => String.ofList (plain.takeWhile (· != ':'))

/-- The port: what stands after the last colon, if it is a 16-bit number. -/
def port? (authority : Authority) : Option UInt16 :=
  if authority.text.toList.contains ':' then
    Numeral.readUInt16? (String.ofList (afterLast ':' authority.text.toList))
  else none

end Authority

end PrintProxy
