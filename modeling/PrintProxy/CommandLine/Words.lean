/-!
# Words on a command line

How a command line falls into options and operands.  An option is written out
behind two hyphens or as one letter behind one hyphen; letters can share a
hyphen.  A value stands in the next word, or in the same word behind `=` or
right behind the letter.  A lone `--` makes everything behind it operands.

The words of a command are taken one after another.  Each is checked when it is
taken, so the first word that is wrong, or asks for help, decides.
-/

namespace PrintProxy.CommandLine

/-- Why a command line is not carried out. -/
inductive Stop where
  | help
  | usage
deriving DecidableEq, Repr

/-- What an option takes. -/
inductive Takes where
  | nothing
  /-- A value that passes a test; the option is given at most once. -/
  | one (accepts : String → Bool)
  /-- A value each time that the option is given. -/
  | many

structure OptionRule where
  name : String
  letter : Option Char
  takes : Takes

/-- The options of a command, and the tests of its operands. -/
structure Rules where
  options : List OptionRule
  operands : List (String → Bool)

/-- What has been taken of a command's words. -/
structure Words where
  /-- The options with their values, in the order in which they were given. -/
  options : List (String × String) := []
  operands : List String := []
  /-- The option whose value comes next. -/
  pending : Option OptionRule := none
  /-- Whether everything is an operand from here on. -/
  escaped : Bool := false

namespace Words

def has (words : Words) (name : String) : Bool := words.options.any (·.1 == name)

def valuesOf (words : Words) (name : String) : List String :=
  (words.options.filter (·.1 == name)).map (·.2)

/-- The value of an option that is given at most once. -/
def value? (words : Words) (name : String) : Option String := (words.valuesOf name).head?

def setOption (words : Words) (rule : OptionRule) (value : String) : Except Stop Words :=
  let taken := { words with options := words.options ++ [(rule.name, value)], pending := none }
  match rule.takes with
  | .many => .ok taken
  | .nothing => if words.has rule.name then .error .usage else .ok taken
  | .one accepts =>
      if words.has rule.name || !accepts value then .error .usage else .ok taken

def addOperand (rules : Rules) (words : Words) (value : String) : Except Stop Words :=
  match rules.operands[words.operands.length]? with
  | none => .error .usage
  | some accepts =>
      if accepts value then .ok { words with operands := words.operands ++ [value] }
      else .error .usage

/-- Takes an option that is written out, with the value behind its `=` if there is one. -/
def takeName (rules : Rules) (words : Words) (name : String) (value : Option String) :
    Except Stop Words :=
  match rules.options.find? (·.name == name), value with
  | none, none => .error (if name = "help" then .help else .usage)
  | none, some _ => .error .usage
  | some rule, value =>
      match rule.takes, value with
      | .nothing, none => words.setOption rule ""
      | .nothing, some _ => .error .usage
      | _, none => .ok { words with pending := some rule }
      | _, some value => words.setOption rule value

/-- Takes letters that share a hyphen.  What stands behind the letter of an option with a value is
that value. -/
def takeLetters (rules : Rules) (words : Words) : List Char → Except Stop Words
  | [] => .ok words
  | letter :: rest =>
      match rules.options.find? (·.letter == some letter) with
      | none => .error (if letter = 'h' then .help else .usage)
      | some rule =>
          match rule.takes, rest with
          | .nothing, rest => do
              let words ← words.setOption rule ""
              takeLetters rules words rest
          | _, [] => .ok { words with pending := some rule }
          | _, '=' :: value => words.setOption rule (String.ofList value)
          | _, value => words.setOption rule (String.ofList value)

/-- Takes a word that begins with a hyphen and is more than a hyphen.  No such word is the value of
the option before it. -/
def takeHyphened (rules : Rules) (words : Words) (rest : List Char) : Except Stop Words :=
  if words.pending.isSome then .error .usage
  else
    match rest with
    | ['-'] => .ok { words with escaped := true }
    | '-' :: written =>
        let name := String.ofList (written.takeWhile (· != '='))
        match written.dropWhile (· != '=') with
        | '=' :: value => words.takeName rules name (some (String.ofList value))
        | _ => words.takeName rules name none
    | letters => words.takeLetters rules letters

def take (rules : Rules) (words : Words) (word : String) : Except Stop Words :=
  if words.escaped then words.addOperand rules word
  else
    match word.toList with
    | '-' :: character :: rest => words.takeHyphened rules (character :: rest)
    | _ =>
        match words.pending with
        | some rule => words.setOption rule word
        | none => words.addOperand rules word

/-- Whether a command may end here. -/
def isComplete (rules : Rules) (words : Words) : Bool :=
  words.pending.isNone && words.operands.length == rules.operands.length

end Words

end PrintProxy.CommandLine
