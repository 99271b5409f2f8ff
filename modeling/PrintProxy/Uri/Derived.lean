import PrintProxy.Uri

/-!
# URIs derived from URIs

The proxy completes a port, names jobs next to their printer, turns a printing
URI into the one that HTTP carries, and reads a printer's name off its path.
-/

namespace PrintProxy.Uri

/-- The same URI with a port, if it has a server without one and the server's name can take a
port. -/
def withDefaultPort (uri : Uri) (port : Option UInt16) : Uri :=
  match uri.authority, port with
  | some authority, some port =>
      if authority.port?.isSome then uri
      else
        match Authority.parse (authority.text ++ ":" ++ Numeral.decimal port.toNat) with
        | .ok completed => { uri with authority := some completed }
        | .error _ => uri
  | _, _ => uri

/-- The URI of a job at the server of another URI, `localhost` if that names none. -/
def jobUri (base : Uri) (jobId : Int32) : Except UriFault Uri :=
  let host := base.host?.getD "localhost"
  let port :=
    match base.port? with
    | some port => ":" ++ Numeral.decimal port.toNat
    | none => ""
  let job := Numeral.signed jobId.toInt
  parse s!"ipp://{host}{port}/jobs/{job}"

/-- The HTTP scheme that carries a printing scheme, with its port. -/
def httpCarrier? : Option String → Option (String × String)
  | some "ipps" => some ("https", "443")
  | some "ipp" => some ("http", "631")
  | _ => none

/-- The text of the URI that HTTP posts to.  The printing schemes become HTTP schemes with an
explicit port; every other URI stays as it is. -/
def httpForm (uri : Uri) : String :=
  match httpCarrier? uri.scheme, uri.authority with
  | some (scheme, defaultPort), some authority =>
      let server :=
        if authority.port?.isSome then authority.text else authority.text ++ ":" ++ defaultPort
      scheme ++ "://" ++ server ++ uri.writtenPathAndQuery
  | _, _ => uri.render

/-- The last segment of a path that is not empty: what stands after the last slash once the
slashes at the end are gone. -/
def lastSegment (path : String) : List Char :=
  ((path.toList.reverse.dropWhile (· == '/')).takeWhile (· != '/')).reverse

/-- The printer that a URI names by the last segment of its path. -/
def printerName (uri : Uri) : String :=
  match lastSegment uri.path with
  | [] => "default"
  | name => String.ofList name

end PrintProxy.Uri
