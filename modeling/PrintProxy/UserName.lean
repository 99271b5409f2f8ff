/-!
# User names

Requests name the user who makes them.
-/

namespace PrintProxy

/-- The variables of the environment that may name the user, best first. -/
def userVariables : List String := ["USER", "USERNAME"]

/-- The first name that is set and not empty, or a stand-in.  The names are those that the variables
have in an environment. -/
def userName (environment : String → Option String) : String :=
  ((userVariables.filterMap environment).find? (!·.isEmpty)).getD "anonymous"

end PrintProxy
