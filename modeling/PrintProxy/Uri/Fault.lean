/-!
# Faults of URI references
-/

namespace PrintProxy

/-- Why a text is no URI reference. -/
inductive UriFault where
  | tooLong
  | empty
  | invalidCharacter
  | schemeTooLong
  | invalidAuthority
  | invalidFormat
deriving DecidableEq, Repr

def UriFault.message : UriFault → String
  | .tooLong => "uri too long"
  | .empty => "empty string"
  | .invalidCharacter => "invalid uri character"
  | .schemeTooLong => "scheme too long"
  | .invalidAuthority => "invalid authority"
  | .invalidFormat => "invalid format"

end PrintProxy
