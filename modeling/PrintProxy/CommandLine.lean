import PrintProxy.CommandLine.Words
import PrintProxy.Config

/-!
# Command lines

What can be asked for on the command line: to serve as a proxy, or to print a
file, show a printer, list jobs or cancel one.  Two options belong to every
command and may stand before or behind its name; behind it they take precedence.
-/

namespace PrintProxy

/-- What a command line asks for. -/
inductive Command where
  | serve (bind : IpAddress) (port : UInt16) (printerName : String) (recording : Bool)
  /-- Without a file, standard input is printed. -/
  | print (uri : String) (file jobName userName : Option String) (options : List String)
  | status (uri : String) (attributes : List String)
  | jobs (uri : String)
  | cancel (uri : String) (jobId : Int32)
deriving DecidableEq, Repr

/-- A command with what applies to all commands. -/
structure CommandLine where
  /-- How many seconds a server may take to answer. -/
  timeout : UInt64
  target : Option String
  command : Command
deriving DecidableEq, Repr

namespace CommandLine

/-- Every text is accepted. -/
def anyText : String → Bool := fun _ => true

def port? (text : String) : Option UInt16 :=
  (Numeral.readSigned? 0 65535 text).map fun number => UInt16.ofNat number.toNat

def sharedOptions : List OptionRule :=
  [⟨"timeout", some 't', .one fun text => (Numeral.readUInt64? text).isSome⟩,
    ⟨"target", some 'T', .one anyText⟩]

/-- The rules of the words before the command's name. -/
def sharedRules : Rules := ⟨sharedOptions, []⟩

def commandRules : List (String × Rules) :=
  [("serve",
      ⟨sharedOptions ++
        [⟨"bind", some 'b', .one fun text => (IpAddress.parse? text).isSome⟩,
          ⟨"port", some 'p', .one fun text => (port? text).isSome⟩,
          ⟨"printer-name", none, .one anyText⟩,
          ⟨"record", some 'r', .nothing⟩],
        []⟩),
    ("print",
      ⟨sharedOptions ++
        [⟨"file", some 'f', .one fun text => !text.isEmpty⟩,
          ⟨"job-name", some 'j', .one anyText⟩,
          ⟨"user-name", some 'u', .one anyText⟩,
          ⟨"option", some 'o', .many⟩],
        [anyText]⟩),
    ("status", ⟨sharedOptions ++ [⟨"attribute", some 'a', .many⟩], [anyText]⟩),
    ("jobs", ⟨sharedOptions, [anyText]⟩),
    ("cancel", ⟨sharedOptions, [anyText, fun text => (Numeral.readInt32? text).isSome]⟩)]

/-- How far a command line has been taken. -/
inductive Progress where
  | shared (words : Words)
  | named (before : Words) (name : String) (rules : Rules) (words : Words)
  /-- Help is asked for on topics. -/
  | topics (names : List String)

namespace Progress

/-- Whether a word names a command here. -/
def expectsName (words : Words) (word : String) : Bool :=
  words.pending.isNone && !words.escaped && (word == "-" || !word.startsWith "-")

def take : Progress → String → Except Stop Progress
  | shared words, word =>
      if expectsName words word then
        if word = "help" then .ok (topics [])
        else
          match commandRules.lookup word with
          | some rules => .ok (named words word rules {})
          | none => .error .usage
      else (words.take sharedRules word).map shared
  | named before name rules words, word => (words.take rules word).map (named before name rules)
  | topics names, word => .ok (topics (names ++ [word]))

end Progress

def command? (name : String) (words : Words) : Option Command :=
  match name, words.operands with
  | "serve", [] => do
      let bind ← IpAddress.parse? ((words.value? "bind").getD "0.0.0.0")
      let port ← port? ((words.value? "port").getD "631")
      let printerName := (words.value? "printer-name").getD standardPrinterName
      return .serve bind port printerName (words.has "record")
  | "print", [uri] =>
      some
        (.print uri (words.value? "file") (words.value? "job-name") (words.value? "user-name")
          (words.valuesOf "option"))
  | "status", [uri] => some (.status uri (words.valuesOf "attribute"))
  | "jobs", [uri] => some (.jobs uri)
  | "cancel", [uri, jobId] => (Numeral.readInt32? jobId).map (.cancel uri)
  | _, _ => none

/-- What all words together ask for. -/
def Progress.finish : Progress → Except Stop CommandLine
  | shared _ => .error .usage
  | topics names =>
      let known := "help" :: commandRules.map (·.1)
      .error (if names.length ≤ 1 && names.all known.contains then .help else .usage)
  | named before name rules words =>
      if !words.isComplete rules then .error .usage
      else
        let given (option : String) : Option String :=
          (words.value? option).or (before.value? option)
        match command? name words, Numeral.readUInt64? ((given "timeout").getD "30") with
        | some command, some timeout => .ok { timeout, target := given "target", command }
        | _, _ => .error .usage

def parse (arguments : List String) : Except Stop CommandLine :=
  arguments.foldlM Progress.take (.shared {}) >>= Progress.finish

end CommandLine

end PrintProxy
