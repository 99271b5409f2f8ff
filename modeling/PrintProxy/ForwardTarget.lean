import PrintProxy.Fault
import PrintProxy.Uri

/-!
# Forward targets

Where requests go: to another server, or nowhere, in which case the proxy
answers them itself and keeps its records in a directory.  A directory is
written behind `file:`, a server as its URI.
-/

namespace PrintProxy

/-- Where requests go. -/
inductive ForwardTarget where
  | server (uri : Uri)
  /-- Requests are answered here; the path names a directory for records. -/
  | directory (path : String)
deriving DecidableEq, Repr

namespace ForwardTarget

/-- The target of a proxy that is told none. -/
def standard : ForwardTarget := .directory "/tmp/IPP"

/-- The schemes that a server may have. -/
def serverSchemes : List String := ["http", "https", "ipp", "ipps"]

/-- What stands behind the mark of a directory, if the text has it. -/
def directoryText? (text : String) : Option (List Char) :=
  if "file:".toList.isPrefixOf text.toList then some (text.toList.drop 5) else none

/-- A path without the pairs of slashes at its front. -/
def dropSlashPairs : List Char → List Char
  | '/' :: '/' :: rest => dropSlashPairs rest
  | path => path

def parse (text : String) : Except Fault ForwardTarget :=
  match directoryText? text with
  | some path =>
      match dropSlashPairs path with
      | [] => .error (.refused (.noDirectory text))
      | path => .ok (.directory (String.ofList path))
  | none =>
      match Uri.parse text with
      | .error fault => .error (.invalidUri fault)
      | .ok uri =>
          if serverSchemes.any (uri.scheme == some ·) then .ok (.server uri)
          else .error (.refused (.unsupportedTarget text))

def render : ForwardTarget → String
  | server uri => uri.render
  | directory path => "file:" ++ path

/-- The port that printer URIs without one are completed with. -/
def port? : ForwardTarget → Option UInt16
  | server uri => uri.port?
  | directory _ => none

def isLocal : ForwardTarget → Bool
  | server _ => false
  | directory _ => true

end ForwardTarget

end PrintProxy
