import PrintProxy.Proofs.Uri.Port
import PrintProxy.Proofs.Uri.Rendering
import PrintProxy.Uri.Derived

/-!
# URIs that HTTP carries

The text that HTTP posts to is put together from the parts of a printing URI.
It is parsed as a URI of the same server, unless a port was put behind a colon
that had none, or the text has become too long.
-/

namespace PrintProxy.Uri

variable {printing carrier text server : String} {port : UInt16} {uri target : Uri}

/-- The printing schemes, with the HTTP schemes that carry them and the ports they are served at. -/
def carriers : List (String × String × UInt16) := [("ipp", "http", 631), ("ipps", "https", 443)]

/-- The reference is what a printing URI becomes for HTTP. -/
structure IsCarriedAs (uri target : Uri) (carrier : String) (port : UInt16) : Prop where
  scheme : target.scheme = some carrier
  userInfo : target.authority.bind Authority.userInfo? = uri.authority.bind Authority.userInfo?
  host : target.host? = uri.host?
  port : target.port? = some (uri.port?.getD port)
  path : target.path = uri.path
  query : target.query = uri.query

/-- The server has a port, or no colon stands where one is put. -/
def TakesPort (uri : Uri) : Prop :=
  ∀ authority ∈ uri.authority,
    authority.port?.isSome ∨ ':' ∉ Authority.behindBrackets authority.text.toList

theorem splitScheme_of_mem_carriers (member : (printing, carrier, port) ∈ carriers) :
    ∃ characters, splitScheme characters = .ok (some carrier, []) := by
  simp only [carriers, List.mem_cons, List.not_mem_nil, or_false] at member
  rcases member with same | same
  · cases same
    exact ⟨"http://".toList, rfl⟩
  · cases same
    exact ⟨"https://".toList, rfl⟩

theorem httpForm_eq (member : (printing, carrier, port) ∈ carriers) {authority : Authority}
    (isPrinting : uri.scheme = some printing) (named : uri.authority = some authority) :
    uri.httpForm =
      carrier ++ "://" ++ (authority.withPort port).text ++ uri.writtenPathAndQuery := by
  have server (number : UInt16) : (authority.withPort number).text =
      if authority.port?.isSome then authority.text
      else authority.text ++ ":" ++ Numeral.decimal number.toNat := by
    rw [Authority.withPort]
    split <;> rfl
  rw [server]
  simp only [carriers, List.mem_cons, List.not_mem_nil, or_false] at member
  rcases member with same | same
  · cases same
    simp only [httpForm, isPrinting, named, httpCarrier?]
    rfl
  · cases same
    simp only [httpForm, isPrinting, named, httpCarrier?]
    rfl

/-- The same path and query behind another scheme and another server. -/
def movedTo (uri : Uri) (scheme : String) (authority : Authority) : Uri :=
  { uri with scheme := some scheme, authority := some authority }

theorem hasNoTerminator_withPort (noTerminator : Authority.HasNoTerminator server) (port : UInt16) :
    Authority.HasNoTerminator (Authority.withPort ⟨server⟩ port).text := by
  rw [Authority.withPort]
  split
  · exact noTerminator
  · exact noTerminator.append_port _

theorem toList_withPort_ne_nil (notEmpty : server.toList ≠ []) (port : UInt16) :
    (Authority.withPort ⟨server⟩ port).text.toList ≠ [] := by
  rcases Authority.withPort_cases ⟨server⟩ port with ⟨_, same⟩ | ⟨_, text⟩
  · rwa [same]
  · simp [text]

theorem IsWhole.movedTo_withPort (whole : uri.IsWhole server) (scheme : String)
    (checked : Authority.check (Authority.withPort ⟨server⟩ port).text.toList = .ok ()) :
    (uri.movedTo scheme (Authority.withPort ⟨server⟩ port)).IsWhole
      (Authority.withPort ⟨server⟩ port).text where
  authority := rfl
  namesServer :=
    ⟨toList_withPort_ne_nil whole.namesServer.notEmpty port,
      hasNoTerminator_withPort whole.namesServer.noTerminator port, checked⟩
  begins := whole.begins
  pathPlain := whole.pathPlain
  queryPlain := whole.queryPlain

/-- A scheme and a server with a port, before the path and the query of a reference, are parsed if
the server takes the port. -/
theorem IsWhole.parse_withPort (whole : uri.IsWhole server) {characters : List Char}
    (schemeFound : splitScheme characters = .ok (some carrier, []))
    (written : text = carrier ++ "://" ++ (Authority.withPort ⟨server⟩ port).text ++
      uri.writtenPathAndQuery) (fits : text.utf8ByteSize ≤ greatestLength) :
    parse text =
      (Authority.check (Authority.withPort ⟨server⟩ port).text.toList).map fun _ =>
        uri.movedTo carrier (Authority.withPort ⟨server⟩ port) := by
  have letters : text.toList = carrier.toList ++ (':' :: '/' :: '/' ::
      ((Authority.withPort ⟨server⟩ port).text.toList ++ uri.writtenPathAndQuery.toList)) := by
    simp [written]
  cases checked : Authority.check (Authority.withPort ⟨server⟩ port).text.toList with
  | ok _ => exact (whole.movedTo_withPort carrier checked).parse_eq rfl schemeFound fits letters
  | error fault =>
      have ends : Authority.EndsBefore (Authority.withPort ⟨server⟩ port).text.toList
          uri.writtenPathAndQuery.toList :=
        ⟨hasNoTerminator_withPort whole.namesServer.noTerminator port, whole.endsBefore.2⟩
      have notEmpty := toList_withPort_ne_nil whole.namesServer.notEmpty port
      rw [parse_eq_behindScheme schemeFound fits (by simp [notEmpty]) letters, parseBehindScheme,
        Authority.split_append ends, checked]
      rfl

theorem isCarriedAs_withPort (whole : uri.IsWhole server) (isScheme : uri.scheme = some printing)
    (carrier : String) (port : UInt16) :
    uri.IsCarriedAs (uri.movedTo carrier (Authority.withPort ⟨server⟩ port)) carrier port where
  scheme := rfl
  userInfo := by
    rw [whole.authority]
    exact Authority.userInfo?_withPort ⟨server⟩ port
  host := by
    rw [host?, host?, whole.authority]
    exact congrArg some (Authority.host_withPort whole.namesServer.checked port)
  port := by
    rw [port?, port?, whole.authority]
    exact Authority.port?_withPort ⟨server⟩ port
  path := by simp [path, movedTo, isScheme]
  query := rfl

/-- The text that HTTP posts to for a printing URI is a URI exactly if the server takes a port and
the text is not too long, and it is then the one that carries the printing URI. -/
theorem parse_httpForm_iff (member : (printing, carrier, port) ∈ carriers)
    (isPrinting : uri.scheme = some printing) (parsed : parse text = .ok uri) :
    ((∃ target, parse uri.httpForm = .ok target) ↔
        uri.TakesPort ∧ uri.httpForm.utf8ByteSize ≤ greatestLength) ∧
      ∀ target, parse uri.httpForm = .ok target → uri.IsCarriedAs target carrier port := by
  obtain ⟨server, _, whole, _⟩ := (parses_of_parse parsed).1.exists_isWhole isPrinting
  obtain ⟨characters, schemeFound⟩ := splitScheme_of_mem_carriers member
  have written := httpForm_eq member isPrinting whole.authority
  have fits_of_parse {target : Uri} (found : parse uri.httpForm = .ok target) :
      uri.httpForm.utf8ByteSize ≤ greatestLength := (parses_of_parse found).2
  have parse_of_fits := whole.parse_withPort schemeFound written
  have takesPort_iff : uri.TakesPort ↔ (Authority.port? ⟨server⟩).isSome ∨
      ':' ∉ Authority.behindBrackets server.toList := by
    simp [TakesPort, whole.authority]
  rw [Authority.check_withPort whole.namesServer.checked] at parse_of_fits
  rw [takesPort_iff]
  refine ⟨⟨?_, ?_⟩, ?_⟩
  · rintro ⟨target, found⟩
    refine ⟨?_, fits_of_parse found⟩
    by_contra noPlace
    rw [parse_of_fits (fits_of_parse found), if_neg noPlace] at found
    cases found
  · rintro ⟨takes, fits⟩
    rw [parse_of_fits fits, if_pos takes]
    exact ⟨_, rfl⟩
  · intro target found
    rw [parse_of_fits (fits_of_parse found)] at found
    split at found
    · cases found
      exact isCarriedAs_withPort whole isPrinting carrier port
    · cases found

/-- Neither a password nor a bracketed address is in the way of a port. -/
theorem parse_httpForm_iff_bracketed :
    ∃ target, parse (httpForm ⟨some "ipps", some ⟨"user:80@[::1]"⟩, "", some "q"⟩) = .ok target ∧
      IsCarriedAs ⟨some "ipps", some ⟨"user:80@[::1]"⟩, "", some "q"⟩ target "https" 443 := by
  have parsed : parse "ipps://user:80@[::1]?q" =
      .ok ⟨some "ipps", some ⟨"user:80@[::1]"⟩, "", some "q"⟩ := by decide
  obtain ⟨isUri, carried⟩ := parse_httpForm_iff (.tail _ (.head _)) rfl parsed
  obtain ⟨target, found⟩ := isUri.mpr ⟨by rintro _ ⟨⟩; right; decide, by decide⟩
  exact ⟨target, found, carried target found⟩

/-- A colon without a port behind it stays where the port is put. -/
theorem parse_httpForm_colon :
    parse "ipp://host:/printers/p" = .ok ⟨some "ipp", some ⟨"host:"⟩, "/printers/p", none⟩ ∧
      httpForm ⟨some "ipp", some ⟨"host:"⟩, "/printers/p", none⟩ =
        "http://host::631/printers/p" ∧
      parse "http://host::631/printers/p" = .error .invalidAuthority := by
  decide

end PrintProxy.Uri
