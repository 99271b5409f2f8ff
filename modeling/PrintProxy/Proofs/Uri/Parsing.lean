import Mathlib.Data.List.TakeWhile
import PrintProxy.Proofs.Outcome
import PrintProxy.Proofs.Text.Numeral
import PrintProxy.Uri

/-!
# The forms of URI references

`Parses` lists the forms of the texts that `Uri.parse` accepts, with the parts
that it finds in each: `*`, a path, a bare authority, and an authority behind a
scheme.  Where an authority ends is determined by the characters: it has no
terminator in it, and what follows it is empty or begins with one.
-/

namespace PrintProxy

theorem takeWhile_append_of_mem {meant : Char → Bool} {front : List Char} {separator : Char}
    (member : separator ∈ front) (stops : meant separator = false) (rest : List Char) :
    (front ++ rest).takeWhile meant = front.takeWhile meant := by
  rw [List.takeWhile_append, if_neg]
  intro whole
  have same := (List.takeWhile_prefix meant).eq_of_length whole
  have goesOn := List.takeWhile_eq_self_iff.mp same separator member
  rw [stops] at goesOn
  cases goesOn

theorem takeWhile_append_cons {meant : Char → Bool} {separator : Char}
    (stops : meant separator = false) (front rest : List Char) :
    (front ++ separator :: rest).takeWhile meant = front.takeWhile meant := by
  rw [List.append_cons, takeWhile_append_of_mem (List.mem_concat_self ..) stops,
    List.takeWhile_append]
  split
  · next whole =>
      rw [(List.takeWhile_prefix meant).eq_of_length whole,
        List.takeWhile_cons_of_neg (by simp [stops]), List.append_nil]
  · rfl

namespace Authority

theorem isTerminator_of_isDigit {character : Char} (digit : character.isDigit) :
    isTerminator character = false := by
  have noSlash := ne_of_isDigit digit '/' rfl
  have noMark := ne_of_isDigit digit '?' rfl
  have noHash := ne_of_isDigit digit '#' rfl
  simp [isTerminator, noSlash, noMark, noHash]

/-- Nothing in a text ends an authority. -/
def HasNoTerminator (text : String) : Prop :=
  ∀ character ∈ text.toList, isTerminator character = false

theorem HasNoTerminator.of_all {text : String}
    (plain : text.toList.all (!isTerminator ·) = true) : HasNoTerminator text := by
  intro character member
  simpa using List.all_eq_true.mp plain character member

theorem HasNoTerminator.append_port {server : String} (noTerminator : HasNoTerminator server)
    (port : Nat) : HasNoTerminator (server ++ ":" ++ Numeral.decimal port) := by
  intro character member
  rw [String.toList_append, String.toList_append] at member
  rcases List.mem_append.mp member with front | inNumber
  · rcases List.mem_append.mp front with inServer | colon
    · exact noTerminator character inServer
    · rw [List.mem_singleton.mp colon]
      decide
  · exact isTerminator_of_isDigit (Numeral.isDigit_of_mem_decimal inNumber)

/-- The text is a server's name. -/
structure NamesServer (text : String) : Prop where
  notEmpty : text.toList ≠ []
  noTerminator : HasNoTerminator text
  checked : check text.toList = .ok ()

/-- The characters are those of an authority, as far as a terminator can tell. -/
def EndsBefore (front back : List Char) : Prop :=
  (∀ character ∈ front, isTerminator character = false) ∧
    ∀ character rest, back = character :: rest → isTerminator character = true

theorem EndsBefore.hasNoTerminator {front back : List Char} (ends : EndsBefore front back) :
    HasNoTerminator (String.ofList front) := by
  rw [HasNoTerminator, String.toList_ofList]
  exact ends.1

theorem EndsBefore.namesServer {front back : List Char} (ends : EndsBefore front back)
    (notEmpty : front ≠ []) (checked : check front = .ok ()) :
    NamesServer (String.ofList front) where
  notEmpty := by rwa [String.toList_ofList]
  noTerminator := ends.hasNoTerminator
  checked := by rwa [String.toList_ofList]

theorem endsBefore_split (characters : List Char) :
    EndsBefore (characters.takeWhile (!isTerminator ·))
      (characters.dropWhile (!isTerminator ·)) := by
  constructor
  · intro character member
    simpa using List.mem_takeWhile_imp member
  · intro character rest same
    have stops := List.head?_dropWhile_not (!isTerminator ·) characters
    simpa [same] using stops

theorem EndsBefore.unique {front back front' back' : List Char} (ends : EndsBefore front back)
    (ends' : EndsBefore front' back') (same : front ++ back = front' ++ back') :
    front = front' ∧ back = back' := by
  induction front generalizing front' with
  | nil =>
      cases front' with
      | nil => exact ⟨rfl, same⟩
      | cons first _ =>
          have inside := ends'.1 first List.mem_cons_self
          rw [ends.2 first _ same] at inside
          cases inside
  | cons first rest ih =>
      cases front' with
      | nil =>
          have inside := ends.1 first List.mem_cons_self
          rw [ends'.2 first _ same.symm] at inside
          cases inside
      | cons first' rest' =>
          obtain ⟨sameFirst, sameRest⟩ := List.cons.inj same
          have restEnds : EndsBefore rest back :=
            ⟨fun character member => ends.1 character (List.mem_cons_of_mem _ member), ends.2⟩
          have restEnds' : EndsBefore rest' back' :=
            ⟨fun character member => ends'.1 character (List.mem_cons_of_mem _ member), ends'.2⟩
          obtain ⟨rfl, rfl⟩ := ih restEnds restEnds' sameRest
          exact ⟨by rw [sameFirst], rfl⟩

theorem split_append {front back : List Char} (ends : EndsBefore front back) :
    split (front ++ back) = (check front).map fun _ => (front, back) := by
  obtain ⟨sameFront, sameBack⟩ := ends.unique (endsBefore_split (front ++ back))
    List.takeWhile_append_dropWhile.symm
  rw [split, ← sameFront, ← sameBack]
  cases check front <;> rfl

theorem split_eq_ok_iff {characters front back : List Char} :
    split characters = .ok (front, back) ↔
      characters = front ++ back ∧ EndsBefore front back ∧ check front = .ok () := by
  constructor
  · intro found
    obtain ⟨_, checked, same⟩ := bind_eq_ok_iff.mp found
    cases same
    exact ⟨List.takeWhile_append_dropWhile.symm, endsBefore_split characters, checked⟩
  · intro parts
    obtain ⟨rfl, ends, checked⟩ := parts
    rw [split_append ends, checked]
    rfl

theorem parts_of_parse {text : String} {authority : Authority}
    (parsed : parse text = .ok authority) :
    text.toList ≠ [] ∧ EndsBefore text.toList [] ∧ check text.toList = .ok () ∧
      authority = ⟨text⟩ := by
  unfold parse at parsed
  split at parsed
  · cases parsed
  · next notEmpty =>
      obtain ⟨⟨front, back⟩, found, parsed⟩ := bind_eq_ok_iff.mp parsed
      obtain ⟨same, ends, checked⟩ := split_eq_ok_iff.mp found
      dsimp only at parsed
      split at parsed
      · next atEnd =>
          cases parsed
          rw [List.isEmpty_iff.mp atEnd] at ends same
          rw [List.append_nil] at same
          rw [same] at notEmpty ⊢
          exact ⟨by simpa using notEmpty, ends, checked, rfl⟩
      · cases parsed

end Authority

namespace Uri

/-- The forms of URI references and the parts that are found in them. -/
inductive Parses : List Char → Uri → Prop where
  | asterisk : Parses ['*'] ⟨none, none, "*", none⟩
  | path {rest : List Char} {path : String} {query : Option String} :
      splitPath ('/' :: rest) = .ok (path, query) →
      Parses ('/' :: rest) ⟨none, none, path, query⟩
  | authority {characters : List Char} :
      characters ≠ [] →
      Authority.EndsBefore characters [] →
      Authority.check characters = .ok () →
      Parses characters ⟨none, some ⟨String.ofList characters⟩, "", none⟩
  | whole {characters front back : List Char} {scheme path : String} {query : Option String} :
      splitScheme characters = .ok (some scheme, front ++ back) →
      front ≠ [] →
      Authority.EndsBefore front back →
      Authority.check front = .ok () →
      splitPath back = .ok (path, query) →
      Parses characters
        ⟨some scheme, some ⟨String.ofList front⟩,
          if path.isEmpty && query.isNone then "/" else path, query⟩

/-- A path ends before the first `?` or `#`, a query before the first `#` behind its mark. -/
theorem parts_of_splitPath {characters : List Char} {path : String} {query : Option String}
    (found : splitPath characters = .ok (path, query)) :
    path = String.ofList
        (characters.takeWhile fun character => character != '?' && character != '#') ∧
      (query = none ∨
        ∃ rest, (characters.dropWhile fun character => character != '?' && character != '#') =
            '?' :: rest ∧
          query = some (String.ofList (rest.takeWhile (· != '#')))) := by
  unfold splitPath at found
  dsimp only at found
  split at found
  · cases found
  · split at found
    · next rest behind =>
        split at found
        · cases found
        · cases found
          exact ⟨rfl, .inr ⟨rest, behind, rfl⟩⟩
    · cases found
      exact ⟨rfl, .inl rfl⟩

theorem rooted_of_splitPath {back path : String} {query : Option String}
    (found : splitPath ("/" ++ back).toList = .ok (path, query)) :
    ∃ behindSlash, path.toList = '/' :: behindSlash := by
  rw [(parts_of_splitPath found).1, String.toList_ofList, String.toList_append]
  exact ⟨_, rfl⟩

theorem isEmpty_of_rooted {path : String} {behindSlash : List Char}
    (rooted : path.toList = '/' :: behindSlash) : path.isEmpty = false := by
  rw [String.isEmpty_eq_false_iff]
  rintro rfl
  cases rooted

theorem eq_of_splitScheme_none {characters rest : List Char}
    (found : splitScheme characters = .ok (none, rest)) : rest = characters := by
  unfold splitScheme at found
  split at found
  · cases found
  · split at found
    · cases found
    · split at found
      · cases found
        rfl
      · dsimp only at found
        split at found
        · split at found <;> cases found
        · cases found
          rfl

theorem parses_of_parseFromScheme {characters : List Char} {uri : Uri}
    (parsed : parseFromScheme characters = .ok uri) : Parses characters uri := by
  obtain ⟨⟨scheme, rest⟩, schemeFound, behindScheme⟩ := bind_eq_ok_iff.mp parsed
  dsimp only at behindScheme
  split at behindScheme
  · cases behindScheme
  · next notEmpty =>
      obtain ⟨⟨front, back⟩, found, behindAuthority⟩ := bind_eq_ok_iff.mp behindScheme
      obtain ⟨rfl, ends, checked⟩ := Authority.split_eq_ok_iff.mp found
      dsimp only at behindAuthority
      cases scheme with
      | none =>
          dsimp only at behindAuthority
          split at behindAuthority
          · cases behindAuthority
          · next atEnd =>
              cases behindAuthority
              cases back with
              | nil =>
                  have same := eq_of_splitScheme_none schemeFound
                  rw [List.append_nil] at same notEmpty
                  subst same
                  exact .authority (by simpa using notEmpty) ends checked
              | cons character rest => simp at atEnd
      | some scheme =>
          dsimp only at behindAuthority
          split at behindAuthority
          · cases behindAuthority
          · next named =>
              obtain ⟨⟨path, query⟩, pathFound, same⟩ := bind_eq_ok_iff.mp behindAuthority
              cases same
              exact .whole schemeFound (by simpa using named) ends checked pathFound

/-- Whatever is parsed has one of the forms, and is not too long. -/
theorem parses_of_parse {text : String} {uri : Uri} (parsed : parse text = .ok uri) :
    Parses text.toList uri ∧ text.utf8ByteSize ≤ greatestLength := by
  unfold parse at parsed
  split at parsed
  · cases parsed
  · next notTooLong =>
      refine ⟨?_, Nat.le_of_not_lt notTooLong⟩
      split at parsed
      · cases parsed
      · next same =>
          cases parsed
          rw [same]
          exact .asterisk
      · next rest same =>
          obtain ⟨⟨path, query⟩, pathFound, sameUri⟩ := bind_eq_ok_iff.mp parsed
          cases sameUri
          rw [same]
          exact .path pathFound
      · next character _ _ same =>
          obtain ⟨authority, authorityFound, sameUri⟩ := bind_eq_ok_iff.mp parsed
          cases sameUri
          rw [same]
          obtain ⟨notEmpty, ends, checked, rfl⟩ := Authority.parts_of_parse authorityFound
          rw [String.toList_singleton] at notEmpty ends checked
          exact .authority notEmpty ends checked
      · exact parses_of_parseFromScheme parsed

theorem Parses.namesServer {characters : List Char} {uri : Uri} {authority : Authority}
    (parses : Parses characters uri) (named : uri.authority = some authority) :
    Authority.NamesServer authority.text := by
  cases parses with
  | asterisk => cases named
  | path _ => cases named
  | authority notEmpty ends checked =>
      cases named
      exact ends.namesServer notEmpty checked
  | whole _ notEmpty ends checked _ =>
      cases named
      exact ends.namesServer notEmpty checked

/-- What stands for the server of the reference is the name of one. -/
def NamesItsServer (uri : Uri) : Prop :=
  ∀ authority ∈ uri.authority, Authority.NamesServer authority.text

theorem namesItsServer_of_parse {text : String} {uri : Uri} (parsed : parse text = .ok uri) :
    uri.NamesItsServer :=
  fun _ named => (parses_of_parse parsed).1.namesServer named

theorem splitScheme_ipp (rest : List Char) :
    splitScheme ("ipp://".toList ++ rest) = .ok (some "ipp", rest) := by
  have noHttp : hasFront "http://" ("ipp://".toList ++ rest) = false := rfl
  have noHttps : hasFront "https://" ("ipp://".toList ++ rest) = false := rfl
  have long : ¬("ipp://".toList ++ rest).length ≤ 3 := by
    have size : "ipp://".toList.length = 6 := rfl
    rw [List.length_append]
    omega
  have scheme : ("ipp://".toList ++ rest).takeWhile isSchemeCharacter = "ipp".toList := rfl
  have behind : ("ipp://".toList ++ rest).dropWhile isSchemeCharacter = ':' :: '/' :: '/' :: rest :=
    rfl
  simp only [splitScheme, noHttp, noHttps, long, scheme, behind]
  rfl

theorem Parses.of_ipp {rest : List Char} {uri : Uri}
    (parses : Parses ("ipp://".toList ++ rest) uri) :
    ∃ front back path query, rest = front ++ back ∧ Authority.EndsBefore front back ∧
      splitPath back = .ok (path, query) ∧
      uri = ⟨some "ipp", some ⟨String.ofList front⟩,
        if path.isEmpty && query.isNone then "/" else path, query⟩ := by
  generalize whole : "ipp://".toList ++ rest = characters at parses
  cases parses with
  | asterisk => simp at whole
  | path _ => simp at whole
  | authority _ ends _ =>
      have inside : '/' ∈ characters := by simp [← whole]
      have noTerminator := ends.1 '/' inside
      cases noTerminator
  | whole schemeFound _ ends _ found =>
      rw [← whole, splitScheme_ipp] at schemeFound
      obtain ⟨sameScheme, sameRest⟩ := Prod.mk.inj (Except.ok.inj schemeFound)
      cases sameScheme
      exact ⟨_, _, _, _, sameRest, ends, found, rfl⟩

/-- A server's name without a terminator is the authority, and what follows its slash is the path and
a query. -/
theorem parts_of_parse_ipp {server back : String} {uri : Uri}
    (noTerminator : Authority.HasNoTerminator server)
    (parsed : parse ("ipp://" ++ server ++ ("/" ++ back)) = .ok uri) :
    ∃ path query, splitPath ("/" ++ back).toList = .ok (path, query) ∧
      uri = ⟨some "ipp", some ⟨server⟩, path, query⟩ := by
  have parses := (parses_of_parse parsed).1
  rw [String.toList_append, String.toList_append, List.append_assoc] at parses
  obtain ⟨front, rest, path, query, same, ends, found, rfl⟩ := parses.of_ipp
  have serverEnds : Authority.EndsBefore server.toList ("/" ++ back).toList := by
    refine ⟨noTerminator, ?_⟩
    intro character others begins
    rw [String.toList_append] at begins
    cases begins
    rfl
  obtain ⟨rfl, rfl⟩ := serverEnds.unique ends same
  obtain ⟨behindSlash, rooted⟩ := rooted_of_splitPath found
  have notMissing := isEmpty_of_rooted rooted
  exact ⟨path, query, found, by simp [notMissing]⟩

/-- What is written of such a URI has the server where it was read. -/
theorem toList_render_of_parse_ipp {server back : String} {uri : Uri}
    (noTerminator : Authority.HasNoTerminator server)
    (parsed : parse ("ipp://" ++ server ++ ("/" ++ back)) = .ok uri) :
    ∃ rest, uri.render.toList = "ipp://".toList ++ (server.toList ++ rest) ∧
      Authority.EndsBefore server.toList rest := by
  obtain ⟨path, query, found, rfl⟩ := parts_of_parse_ipp noTerminator parsed
  obtain ⟨behindSlash, rooted⟩ := rooted_of_splitPath found
  have notEmpty := isEmpty_of_rooted rooted
  refine ⟨'/' :: (behindSlash ++ (renderQuery ⟨some "ipp", some ⟨server⟩, path, query⟩).toList), ?_,
    noTerminator, ?_⟩
  · simp [render, renderServer, Uri.path, notEmpty, rooted]
  · intro character others begins
    cases begins
    rfl

end Uri

end PrintProxy
