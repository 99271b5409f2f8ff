import PrintProxy.Proofs.Uri.Length
import PrintProxy.Proofs.Uri.Rendering
import PrintProxy.Uri.Derived

/-!
# Printers' names

The name that a URI gives its printer is a piece of the path, so it is no longer
than the rendered URI.  What stands around the name in the path of an advertised
printer leaves room for words around the name.

A printer that is advertised under a name is found under the same name exactly
if the name can be one segment of a path: a `?` or `#` ends the path early, and of
segments between slashes only one is found.
-/

namespace PrintProxy.Uri

open String (utf8Len utf8ByteSize_ofList utf8Len_append utf8Len_cons utf8Len_le_of_sublist)

theorem lastSegment_sublist (path : String) : (lastSegment path).Sublist path.toList := by
  have kept : ((path.toList.reverse.dropWhile (· == '/')).takeWhile (· != '/')).Sublist
      path.toList.reverse :=
    (List.takeWhile_sublist _).trans (List.dropWhile_sublist _)
  simpa [lastSegment] using kept.reverse

theorem ne_slash_of_mem_lastSegment {path : String} {character : Char}
    (member : character ∈ lastSegment path) : character ≠ '/' := by
  have kept := List.mem_takeWhile_imp (List.mem_reverse.mp member)
  exact bne_iff_ne.mp kept

theorem lastSegment_eq_self {path : String} (noSlash : ∀ character ∈ path.toList, character ≠ '/') :
    lastSegment path = path.toList := by
  have others : ∀ character ∈ path.toList.reverse, character ≠ '/' :=
    fun character member => noSlash character (List.mem_reverse.mp member)
  have noneAtEnd : path.toList.reverse.dropWhile (· == '/') = path.toList.reverse := by
    cases letters : path.toList.reverse with
    | nil => rfl
    | cons last _ =>
        have isOther := others last (by simp [letters])
        rw [List.dropWhile_cons_of_neg (by simp [isOther])]
  have all : path.toList.reverse.takeWhile (· != '/') = path.toList.reverse :=
    List.takeWhile_eq_self_iff.mpr fun character member => bne_iff_ne.mpr (others character member)
  rw [lastSegment, noneAtEnd, all, List.reverse_reverse]

/-- A segment behind a slash hides what stands before it. -/
theorem lastSegment_append_slash (front back : String) :
    lastSegment (front ++ "/" ++ back) =
      if lastSegment back = [] then lastSegment front else lastSegment back := by
  have reversed : (front ++ "/" ++ back).toList.reverse =
      back.toList.reverse ++ '/' :: front.toList.reverse := by
    simp
  unfold lastSegment
  rw [reversed, List.dropWhile_append]
  cases behind : back.toList.reverse.dropWhile (· == '/') with
  | nil => simp
  | cons last others =>
      have noSlash : (last == '/') = false := by
        have stops := List.head?_dropWhile_not (· == '/') back.toList.reverse
        simpa [behind] using stops
      have isOther : (last != '/') = true := by simp [bne, noSlash]
      have notEmpty : ((last :: others).takeWhile (· != '/')).reverse ≠ [] := by simp [isOther]
      rw [if_neg notEmpty, if_neg (by simp), takeWhile_append_cons (by decide)]

theorem utf8ByteSize_printerName_le (uri : Uri) :
    uri.printerName.utf8ByteSize ≤ max 7 (utf8Len (lastSegment uri.path)) := by
  have unnamed : "default".utf8ByteSize = 7 := by decide
  unfold printerName
  split
  · omega
  · next same =>
      rw [utf8ByteSize_ofList]
      omega

theorem utf8ByteSize_printerName_of_parse {text : String} {uri : Uri}
    (parsed : parse text = .ok uri) : uri.printerName.utf8ByteSize ≤ greatestLength + 1 := by
  have whole := utf8ByteSize_render_of_parse parsed
  have inPath := utf8Len_le_of_sublist (lastSegment_sublist uri.path)
  have bound := utf8ByteSize_printerName_le uri
  have sevenFits : 7 ≤ greatestLength := by decide
  rw [utf8Len_toList] at inPath
  rw [utf8ByteSize_render] at whole
  omega

theorem advertised_eq (server name : String) :
    s!"ipp://{server}/printers/{name}" =
      "ipp://" ++ server ++ ("/" ++ ("printers/" ++ name)) := by
  simp only [toString, String.append_assoc]
  rfl

theorem toList_advertised (server name : String) :
    (s!"ipp://{server}/printers/{name}").toList =
      "ipp://".toList ++ (server.toList ++ ("/printers/".toList ++ name.toList)) := by
  simp [toString]

theorem utf8ByteSize_advertised (server name : String) :
    (s!"ipp://{server}/printers/{name}").utf8ByteSize =
      16 + server.utf8ByteSize + name.utf8ByteSize := by
  have schemeSize : "ipp://".utf8ByteSize = 6 := by decide
  have directorySize : "/printers/".utf8ByteSize = 10 := by decide
  rw [← utf8Len_toList, toList_advertised]
  simp only [utf8Len_append, utf8Len_toList]
  omega

/-- What of a name is in the path: a `?` or `#` cuts off the rest. -/
def nameInPath (name : String) : String :=
  String.ofList (name.toList.takeWhile fun character => character != '?' && character != '#')

theorem nameInPath_isFront (name : String) : (nameInPath name).toList <+: name.toList := by
  rw [nameInPath, String.toList_ofList]
  exact List.takeWhile_prefix _

/-- The path is the one that the text spells, as far as it goes. -/
theorem path_of_advertised {server name : String} {printer : Uri}
    (noTerminator : Authority.HasNoTerminator server)
    (parsed : parse s!"ipp://{server}/printers/{name}" = .ok printer) :
    printer.path = "/printers" ++ "/" ++ nameInPath name ∧
      ∀ character ∈ printer.path.toList, isPathCharacter character := by
  rw [advertised_eq] at parsed
  obtain ⟨path, query, found, rfl⟩ := parts_of_parse_ipp noTerminator parsed
  have spelled : ("/" ++ ("printers/" ++ name)).toList = "/printers/".toList ++ name.toList := by
    simp
  have directory : ∀ character ∈ "/printers/".toList,
      (character != '?' && character != '#') = true :=
    List.all_eq_true.mp rfl
  have written : path = "/printers" ++ "/" ++ nameInPath name := by
    rw [(parts_of_splitPath found).1, spelled, List.takeWhile_append_of_pos directory,
      String.ofList_append, String.ofList_toList]
    rfl
  have shown : Uri.path ⟨some "ipp", some ⟨server⟩, path, query⟩ = path := by
    simp [Uri.path, written]
  rw [shown]
  exact ⟨written, (plain_of_splitPath found).1⟩

/-- The name that is found of a printer that is advertised under a name. -/
def nameFound (name : String) : String :=
  match lastSegment (nameInPath name) with
  | [] => "printers"
  | segment => String.ofList segment

theorem printerName_of_advertised {server name : String} {printer : Uri}
    (noTerminator : Authority.HasNoTerminator server)
    (parsed : parse s!"ipp://{server}/printers/{name}" = .ok printer) :
    printer.printerName = nameFound name := by
  have directory : lastSegment "/printers" = "printers".toList := by decide
  rw [printerName, (path_of_advertised noTerminator parsed).1, lastSegment_append_slash, directory,
    nameFound]
  cases segment : lastSegment (nameInPath name) <;> rfl

/-- The name can be one segment of a path. -/
def IsSegment (name : String) : Prop :=
  ∀ character ∈ name.toList, isPathCharacter character ∧ character ≠ '/'

instance (name : String) : Decidable (IsSegment name) :=
  List.decidableBAll (fun character => isPathCharacter character ∧ character ≠ '/') name.toList

/-- The name that is found is the name itself only if nothing in it ends a segment. -/
theorem whole_of_nameFound_eq {name : String} (same : nameFound name = name) :
    nameInPath name = name ∧ ∀ character ∈ name.toList, character ≠ '/' := by
  rw [nameFound] at same
  split at same
  · subst same
    exact ⟨rfl, by simp⟩
  · next isSegment =>
      have letters := congrArg String.toList same
      rw [String.toList_ofList] at letters
      have inPath := lastSegment_sublist (nameInPath name)
      rw [letters] at inPath
      have whole := (nameInPath_isFront name).sublist.antisymm inPath
      refine ⟨String.toList_inj.mp whole, ?_⟩
      rw [← letters]
      exact fun _ => ne_slash_of_mem_lastSegment

theorem nameFound_of_isSegment {name : String} (notEmpty : name ≠ "") (segment : IsSegment name) :
    nameFound name = name := by
  have inPath : nameInPath name = name := by
    rw [nameInPath, List.takeWhile_eq_self_iff.mpr, String.ofList_toList]
    exact fun character member => goesOn_of_isPathCharacter (segment character member).1
  have last : lastSegment name = name.toList :=
    lastSegment_eq_self fun character member => (segment character member).2
  rw [nameFound, inPath, last]
  split
  · next nothing => exact absurd (String.toList_eq_nil_iff.mp nothing) notEmpty
  · exact String.ofList_toList

/-- The URI of a printer whose name is a segment. -/
theorem parse_advertised {server name : String} (isServer : Authority.NamesServer server)
    (segment : IsSegment name)
    (fits : (s!"ipp://{server}/printers/{name}").utf8ByteSize ≤ greatestLength) :
    parse s!"ipp://{server}/printers/{name}" =
      .ok ⟨some "ipp", some ⟨server⟩, "/printers/" ++ name, none⟩ := by
  have whole : IsWhole ⟨some "ipp", some ⟨server⟩, "/printers/" ++ name, none⟩ server := by
    refine ⟨rfl, isServer, .inl ⟨"printers/".toList ++ name.toList, by simp⟩, ?_, by simp⟩
    intro character member
    rw [String.toList_append] at member
    rcases List.mem_append.mp member with inDirectory | inName
    · exact List.all_eq_true.mp rfl character inDirectory
    · exact (segment character inName).1
  have schemeFound : splitScheme "ipp://".toList = .ok (some "ipp", []) := rfl
  exact whole.parse_eq rfl schemeFound fits (by
    rw [toList_advertised]
    simp [writtenPathAndQuery, renderQuery])

theorem parse_advertised_eq_ok_iff {server name : String} {printer : Uri}
    (noTerminator : Authority.HasNoTerminator server) (segment : IsSegment name) :
    parse s!"ipp://{server}/printers/{name}" = .ok printer ↔
      Authority.NamesServer server ∧
        16 + server.utf8ByteSize + name.utf8ByteSize ≤ greatestLength ∧
        printer = ⟨some "ipp", some ⟨server⟩, "/printers/" ++ name, none⟩ := by
  rw [← utf8ByteSize_advertised]
  constructor
  · intro parsed
    obtain ⟨parses, fits⟩ := parses_of_parse parsed
    have named : printer.authority = some ⟨server⟩ := by
      rw [advertised_eq] at parsed
      obtain ⟨_, _, _, rfl⟩ := parts_of_parse_ipp noTerminator parsed
      rfl
    have isServer := parses.namesServer named
    rw [parse_advertised isServer segment fits] at parsed
    exact ⟨isServer, fits, (Except.ok.inj parsed).symm⟩
  · rintro ⟨isServer, fits, rfl⟩
    exact parse_advertised isServer segment fits

/-- A printer is found under the name that it is advertised under exactly if the name is a segment
and there is room for it. -/
theorem exists_printerName_iff {server name : String} (isServer : Authority.NamesServer server)
    (notEmpty : name ≠ "") :
    (∃ printer, parse s!"ipp://{server}/printers/{name}" = .ok printer ∧
        printer.printerName = name) ↔
      IsSegment name ∧ 16 + server.utf8ByteSize + name.utf8ByteSize ≤ greatestLength := by
  rw [← utf8ByteSize_advertised]
  constructor
  · rintro ⟨printer, parsed, same⟩
    rw [printerName_of_advertised isServer.noTerminator parsed] at same
    obtain ⟨inPath, noSlash⟩ := whole_of_nameFound_eq same
    obtain ⟨path, plain⟩ := path_of_advertised isServer.noTerminator parsed
    rw [path, inPath, String.toList_append] at plain
    refine ⟨?_, (parses_of_parse parsed).2⟩
    intro character member
    exact ⟨plain character (List.mem_append_right _ member), noSlash character member⟩
  · rintro ⟨segment, fits⟩
    have parsed := parse_advertised isServer segment fits
    refine ⟨_, parsed, ?_⟩
    rw [printerName_of_advertised isServer.noTerminator parsed,
      nameFound_of_isSegment notEmpty segment]

/-- Printers on different servers are written differently. -/
theorem server_eq_of_advertised {server other name otherName : String} {printer otherPrinter : Uri}
    (noTerminator : Authority.HasNoTerminator server)
    (otherNoTerminator : Authority.HasNoTerminator other)
    (parsed : parse s!"ipp://{server}/printers/{name}" = .ok printer)
    (otherParsed : parse s!"ipp://{other}/printers/{otherName}" = .ok otherPrinter)
    (same : printer.render = otherPrinter.render) : server = other := by
  rw [advertised_eq] at parsed otherParsed
  obtain ⟨rest, written, ends⟩ := toList_render_of_parse_ipp noTerminator parsed
  obtain ⟨otherRest, otherWritten, otherEnds⟩ :=
    toList_render_of_parse_ipp otherNoTerminator otherParsed
  rw [same, otherWritten] at written
  have sameServer := (otherEnds.unique ends (List.append_cancel_left written)).1
  exact (String.toList_inj.mp sameServer).symm

/-- The words around the name in the text of the URI leave room for other words around it. -/
theorem utf8ByteSize_printerName_of_advertised {server name : String} {printer : Uri}
    (noTerminator : Authority.HasNoTerminator server)
    (parsed : parse s!"ipp://{server}/printers/{name}" = .ok printer) :
    printer.printerName.utf8ByteSize + 16 ≤ greatestLength := by
  have inBounds := (parses_of_parse parsed).2
  rw [utf8ByteSize_advertised] at inBounds
  have path := (path_of_advertised noTerminator parsed).1
  have inName := utf8Len_le_of_sublist (nameInPath_isFront name).sublist
  have bound := utf8ByteSize_printerName_le printer
  have greatest : greatestLength = 65534 := rfl
  rw [utf8Len_toList, utf8Len_toList] at inName
  rw [path] at bound
  rw [lastSegment_append_slash] at bound
  split at bound
  · have size : "/printers".utf8ByteSize = 9 := by decide
    have inDirectory := utf8Len_le_of_sublist (lastSegment_sublist "/printers")
    rw [utf8Len_toList] at inDirectory
    omega
  · have inKept := utf8Len_le_of_sublist (lastSegment_sublist (nameInPath name))
    rw [utf8Len_toList] at inKept
    omega

end PrintProxy.Uri
