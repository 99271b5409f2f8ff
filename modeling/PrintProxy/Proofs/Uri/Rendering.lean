import PrintProxy.Proofs.Uri.Parsing

/-!
# Rendering and parsing URI references

The text of a URI reference that was parsed is parsed as the same reference,
unless it is too long.  Two things may differ from the text that was parsed
first: a fragment is gone, and a path that was left out between a server and a
query is written as the root.  The latter can make the text one octet too long.
-/

namespace PrintProxy.Uri

variable {characters front back rest : List Char} {text scheme path : String}
  {query : Option String} {uri : Uri}

theorem eq_colon_of_toLower {character : Char} (lower : character.toLower = ':') :
    character = ':' := by
  unfold Char.toLower at lower
  split at lower
  · next upper =>
      have number := congrArg (·.val.toNat) lower
      obtain ⟨atLeast, atMost⟩ := upper
      simp only [ge_iff_le, UInt32.le_iff_toNat_le, UInt32.toNat_add] at atLeast atMost number
      have capitalA : 'A'.val.toNat = 65 := rfl
      have capitalZ : 'Z'.val.toNat = 90 := rfl
      have distance : ('a'.val - 'A'.val).toNat = 32 := rfl
      have colon : ':'.val.toNat = 58 := rfl
      omega
  · exact lower

theorem toLower_ne_colon {character : Char} (plain : isSchemeCharacter character) :
    character.toLower ≠ ':' := by
  intro lower
  rw [eq_colon_of_toLower lower] at plain
  exact absurd plain (by decide)

/-- What stands in front of a text is told by its scheme alone. -/
theorem map_toLower_take_eq_iff {word scheme : List Char} (noColon : ∀ c ∈ word, c ≠ ':')
    (plain : ∀ character ∈ scheme, isSchemeCharacter character) (rest : List Char) :
    ((scheme ++ (':' :: '/' :: '/' :: rest)).take (word.length + 3)).map Char.toLower =
        word ++ [':', '/', '/'] ↔
      scheme.map Char.toLower = word := by
  induction word generalizing scheme with
  | nil =>
      cases scheme with
      | nil => simp
      | cons first others =>
          have notColon := toLower_ne_colon (plain first List.mem_cons_self)
          simp [notColon]
  | cons letter word ih =>
      obtain ⟨letterPlain, wordPlain⟩ := List.forall_mem_cons.mp noColon
      cases scheme with
      | nil =>
          have lower : ':'.toLower = ':' := by decide
          simp [lower, letterPlain.symm]
      | cons first others =>
          obtain ⟨_, othersPlain⟩ := List.forall_mem_cons.mp plain
          have tails := ih wordPlain othersPlain
          simp only [List.length_cons, List.cons_append, Nat.add_right_comm _ 1 3,
            List.take_succ_cons, List.map_cons, List.cons.injEq, tails]

theorem hasFront_scheme_iff (word : String) {scheme : String}
    (noColon : word.toList.all (· != ':'))
    (plain : ∀ character ∈ scheme.toList, isSchemeCharacter character) (rest : List Char) :
    hasFront (word ++ "://") (scheme.toList ++ (':' :: '/' :: '/' :: rest)) ↔
      scheme.toList.map Char.toLower = word.toList := by
  have size : (word ++ "://").toList.length = word.toList.length + 3 := by simp
  have front : (word ++ "://").toList = word.toList ++ [':', '/', '/'] := by simp
  have others : ∀ character ∈ word.toList, character ≠ ':' := by simpa using noColon
  rw [hasFront, beq_iff_eq, size, front]
  exact map_toLower_take_eq_iff others plain rest

/-- A scheme that is written in its own case: its characters are those of a scheme, and it is
neither of the two that are known. -/
structure IsOtherScheme (scheme : String) : Prop where
  short : scheme.toList.length ≤ greatestSchemeLength
  plain : ∀ character ∈ scheme.toList, isSchemeCharacter character
  notHttp : scheme.toList.map Char.toLower ≠ "http".toList
  notHttps : scheme.toList.map Char.toLower ≠ "https".toList

theorem IsOtherScheme.splitScheme_append (other : IsOtherScheme scheme) (notEmpty : rest ≠ []) :
    splitScheme (scheme.toList ++ (':' :: '/' :: '/' :: rest)) = .ok (some scheme, rest) := by
  have http : ¬hasFront "http://" (scheme.toList ++ (':' :: '/' :: '/' :: rest)) :=
    mt (hasFront_scheme_iff "http" rfl other.plain rest).mp other.notHttp
  have https : ¬hasFront "https://" (scheme.toList ++ (':' :: '/' :: '/' :: rest)) :=
    mt (hasFront_scheme_iff "https" rfl other.plain rest).mp other.notHttps
  have long : ¬(scheme.toList ++ (':' :: '/' :: '/' :: rest)).length ≤ 3 := by
    have others := List.length_pos_iff.mpr notEmpty
    simp only [List.length_append, List.length_cons]
    omega
  have front : (scheme.toList ++ (':' :: '/' :: '/' :: rest)).takeWhile isSchemeCharacter =
      scheme.toList := by
    rw [List.takeWhile_append_of_pos other.plain, List.takeWhile_cons_of_neg (by decide),
      List.append_nil]
  have behind : (scheme.toList ++ (':' :: '/' :: '/' :: rest)).dropWhile isSchemeCharacter =
      ':' :: '/' :: '/' :: rest := by
    rw [List.dropWhile_append_of_pos other.plain, List.dropWhile_cons_of_neg (by decide)]
  rw [splitScheme, if_neg http, if_neg https, if_neg long]
  simp only [front, behind, if_neg (Nat.not_lt_of_le other.short), String.ofList_toList]

/-- A scheme that is split off is a known one or keeps its case. -/
theorem scheme_of_splitScheme (found : splitScheme characters = .ok (some scheme, rest)) :
    scheme = "http" ∨ scheme = "https" ∨ IsOtherScheme scheme := by
  unfold splitScheme at found
  split at found
  · cases found
    exact .inl rfl
  · next notHttp =>
      split at found
      · cases found
        exact .inr (.inl rfl)
      · next notHttps =>
          split at found
          · cases found
          · dsimp only at found
            split at found
            · next others behind =>
                split at found
                · cases found
                · next short =>
                    cases found
                    have plain : ∀ character ∈
                        (String.ofList (characters.takeWhile isSchemeCharacter)).toList,
                        isSchemeCharacter character := by
                      rw [String.toList_ofList]
                      exact fun _ => List.mem_takeWhile_imp
                    have whole : (String.ofList (characters.takeWhile isSchemeCharacter)).toList ++
                        (':' :: '/' :: '/' :: rest) = characters := by
                      rw [String.toList_ofList, ← behind]
                      exact List.takeWhile_append_dropWhile
                    rw [← whole] at notHttp notHttps
                    refine .inr (.inr ⟨?_, plain, ?_, ?_⟩)
                    · rw [String.toList_ofList]
                      exact Nat.le_of_not_lt short
                    · exact mt (hasFront_scheme_iff "http" rfl plain rest).mpr notHttp
                    · exact mt (hasFront_scheme_iff "https" rfl plain rest).mpr notHttps
            · cases found

/-- A scheme that was split off is split off again, whatever stands behind it. -/
theorem splitScheme_again (found : splitScheme characters = .ok (some scheme, front))
    (notEmpty : rest ≠ []) :
    splitScheme (scheme.toList ++ (':' :: '/' :: '/' :: rest)) = .ok (some scheme, rest) := by
  rcases scheme_of_splitScheme found with rfl | rfl | other
  · rfl
  · rfl
  · exact other.splitScheme_append notEmpty

theorem head_ne_slash_of_splitScheme (found : splitScheme characters = .ok (some scheme, front))
    {first : Char} {others : List Char}
    (begins : scheme.toList ++ (':' :: '/' :: '/' :: rest) = first :: others) : first ≠ '/' := by
  rintro rfl
  cases letters : scheme.toList with
  | nil =>
      rw [letters] at begins
      cases begins
  | cons letter letters' =>
      rw [letters] at begins
      cases begins
      rcases scheme_of_splitScheme found with rfl | rfl | other
      · exact absurd letters (by simp)
      · exact absurd letters (by simp)
      · have plain := other.plain '/' (by simp [letters])
        exact absurd plain (by decide)

/-- The characters of a path and of its query are those that may stand there. -/
theorem plain_of_splitPath (found : splitPath characters = .ok (path, query)) :
    (∀ character ∈ path.toList, isPathCharacter character) ∧
      ∀ text ∈ query, ∀ character ∈ text.toList, isQueryCharacter character := by
  unfold splitPath at found
  dsimp only at found
  split at found
  · cases found
  · next pathPlain =>
      have plain : ∀ character ∈ (String.ofList (characters.takeWhile fun character =>
          character != '?' && character != '#')).toList, isPathCharacter character := by
        rw [String.toList_ofList]
        simpa using pathPlain
      split at found
      · next rest _ =>
          split at found
          · cases found
          · next queryPlain =>
              cases found
              refine ⟨plain, ?_⟩
              intro text isQuery
              cases isQuery
              rw [String.toList_ofList]
              simpa using queryPlain
      · cases found
        refine ⟨plain, ?_⟩
        intro text isQuery
        cases isQuery

theorem goesOn_of_isPathCharacter {character : Char} (plain : isPathCharacter character) :
    (character != '?' && character != '#') = true := by
  by_contra stops
  have isEnd : character = '?' ∨ character = '#' := by
    by_cases isMark : character = '?'
    · exact .inl isMark
    · right
      simpa [isMark] using stops
  rcases isEnd with rfl | rfl <;> exact absurd plain (by decide)

theorem goesOn_of_isQueryCharacter {character : Char} (plain : isQueryCharacter character) :
    (character != '#') = true := by
  rw [bne_iff_ne]
  rintro rfl
  exact absurd plain (by decide)

/-- A path and a query that are written one behind the other are split again. -/
theorem splitPath_append (pathPlain : ∀ character ∈ path.toList, isPathCharacter character)
    (queryPlain : ∀ text ∈ query, ∀ character ∈ text.toList, isQueryCharacter character) :
    splitPath (path.toList ++ (query.map fun text => '?' :: text.toList).getD []) =
      .ok (path, query) := by
  have goesOn : ∀ character ∈ path.toList, (character != '?' && character != '#') = true :=
    fun character member => goesOn_of_isPathCharacter (pathPlain character member)
  have allPlain : path.toList.all isPathCharacter = true := List.all_eq_true.mpr pathPlain
  cases query with
  | none =>
      have front : path.toList.takeWhile (fun character => character != '?' && character != '#') =
          path.toList := List.takeWhile_eq_self_iff.mpr goesOn
      have behind : path.toList.dropWhile (fun character => character != '?' && character != '#') =
          [] := List.dropWhile_eq_nil_iff.mpr goesOn
      simp [splitPath, front, behind, allPlain]
      rfl
  | some text =>
      have textPlain := queryPlain text rfl
      have front : (path.toList ++ '?' :: text.toList).takeWhile
          (fun character => character != '?' && character != '#') = path.toList := by
        rw [List.takeWhile_append_of_pos goesOn, List.takeWhile_cons_of_neg (by decide),
          List.append_nil]
      have behind : (path.toList ++ '?' :: text.toList).dropWhile
          (fun character => character != '?' && character != '#') = '?' :: text.toList := by
        rw [List.dropWhile_append_of_pos goesOn, List.dropWhile_cons_of_neg (by decide)]
      have queryFront : text.toList.takeWhile (· != '#') = text.toList :=
        List.takeWhile_eq_self_iff.mpr fun character member =>
          goesOn_of_isQueryCharacter (textPlain character member)
      have queryAllPlain : text.toList.all isQueryCharacter = true :=
        List.all_eq_true.mpr textPlain
      simp [splitPath, front, behind, queryFront, allPlain, queryAllPlain]
      rfl

theorem toList_renderQuery (uri : Uri) :
    uri.renderQuery.toList = (uri.query.map fun text => '?' :: text.toList).getD [] := by
  unfold renderQuery
  cases uri.query with
  | none => rfl
  | some query => rw [String.toList_append]; rfl

theorem parse_eq_of_rooted (fits : text.utf8ByteSize ≤ greatestLength)
    (rooted : text.toList = '/' :: rest) (found : splitPath text.toList = .ok (path, query)) :
    parse text = .ok ⟨none, none, path, query⟩ := by
  rw [rooted] at found
  simp only [parse, if_neg (Nat.not_lt_of_le fits), rooted, found]
  rfl

theorem parse_eq_parseFromScheme (fits : text.utf8ByteSize ≤ greatestLength)
    {first second : Char} {others : List Char} (begins : text.toList = first :: second :: others)
    (noSlash : first ≠ '/') : parse text = parseFromScheme text.toList := by
  rw [parse, if_neg (Nat.not_lt_of_le fits), begins]
  split
  · next same => cases same
  · next same => cases same
  · next same =>
      cases same
      exact absurd rfl noSlash
  · next same => cases same
  · rfl

/-- What a server, a path and a query are behind a scheme. -/
def parseBehindScheme (scheme : String) (characters : List Char) : Except UriFault Uri := do
  let (authority, rest) ← Authority.split characters
  if authority.isEmpty then .error .invalidFormat
  let (path, query) ← splitPath rest
  let path := if path.isEmpty && query.isNone then "/" else path
  return ⟨some scheme, some ⟨String.ofList authority⟩, path, query⟩

theorem parse_eq_behindScheme (schemeFound : splitScheme characters = .ok (some scheme, front))
    (fits : text.utf8ByteSize ≤ greatestLength) (notEmpty : rest ≠ [])
    (written : text.toList = scheme.toList ++ (':' :: '/' :: '/' :: rest)) :
    parse text = parseBehindScheme scheme rest := by
  obtain ⟨first, second, others, begins⟩ : ∃ first second others,
      scheme.toList ++ (':' :: '/' :: '/' :: rest) = first :: second :: others := by
    cases scheme.toList with
    | nil => exact ⟨_, _, _, rfl⟩
    | cons letter letters => cases letters <;> exact ⟨_, _, _, rfl⟩
  have isEmpty : rest.isEmpty = false := by simp [notEmpty]
  rw [parse_eq_parseFromScheme fits (written.trans begins)
    (head_ne_slash_of_splitScheme schemeFound begins), written]
  simp only [parseFromScheme, splitScheme_again schemeFound notEmpty, bind, Except.bind, isEmpty]
  rfl

/-- The reference has a server, whose name may stand behind a scheme, and a path and a query that may
stand behind the server: the path begins with a slash, and only a query may take its place. -/
structure IsWhole (uri : Uri) (server : String) : Prop where
  authority : uri.authority = some ⟨server⟩
  namesServer : Authority.NamesServer server
  begins : (∃ behindSlash, uri.writtenPath.toList = '/' :: behindSlash) ∨
    uri.writtenPath = "" ∧ uri.query.isSome
  pathPlain : ∀ character ∈ uri.writtenPath.toList, isPathCharacter character
  queryPlain : ∀ text ∈ uri.query, ∀ character ∈ text.toList, isQueryCharacter character

/-- What is written of the path behind a server begins with a slash, unless a query is in its
place. -/
theorem begins_of_splitPath {server : List Char} (ends : Authority.EndsBefore server back)
    (found : splitPath back = .ok (path, query)) :
    (∃ behindSlash,
      (if path.isEmpty && query.isNone then "/" else path).toList = '/' :: behindSlash) ∨
      (if path.isEmpty && query.isNone then "/" else path) = "" ∧ query.isSome := by
  by_cases missing : path = ""
  · cases query with
    | none => exact .inl ⟨[], by simp [missing]⟩
    | some query => exact .inr (by simp [missing])
  · left
    have written := congrArg String.toList (parts_of_splitPath found).1
    rw [String.toList_ofList] at written
    have isPath : (if path.isEmpty && query.isNone then "/" else path) = path := by
      simp [missing]
    rw [isPath]
    cases back with
    | nil => exact absurd (String.toList_eq_nil_iff.mp written) missing
    | cons first others =>
        have terminates : first = '/' ∨ first = '?' ∨ first = '#' := by
          simpa [Authority.isTerminator, or_assoc] using ends.2 first others rfl
        rcases terminates with rfl | rfl | rfl
        · exact ⟨_, written⟩
        · exact absurd (String.toList_eq_nil_iff.mp written) missing
        · exact absurd (String.toList_eq_nil_iff.mp written) missing

theorem isWhole_of_parts {server : List Char} (notEmpty : server ≠ [])
    (ends : Authority.EndsBefore server back) (checked : Authority.check server = .ok ())
    (found : splitPath back = .ok (path, query)) :
    IsWhole ⟨some scheme, some ⟨String.ofList server⟩,
      if path.isEmpty && query.isNone then "/" else path, query⟩ (String.ofList server) where
  authority := rfl
  namesServer := ends.namesServer notEmpty checked
  begins := begins_of_splitPath ends found
  pathPlain := by
    dsimp only
    split
    · exact List.all_eq_true.mp rfl
    · exact (plain_of_splitPath found).1
  queryPlain := (plain_of_splitPath found).2

namespace IsWhole

variable {server : String}

theorem toList_writtenPathAndQuery (uri : Uri) :
    uri.writtenPathAndQuery.toList =
      uri.writtenPath.toList ++ (uri.query.map fun text => '?' :: text.toList).getD [] := by
  rw [writtenPathAndQuery, String.toList_append, toList_renderQuery]

theorem splitPath_eq (whole : uri.IsWhole server) :
    splitPath uri.writtenPathAndQuery.toList = .ok (uri.writtenPath, uri.query) := by
  rw [toList_writtenPathAndQuery]
  exact splitPath_append whole.pathPlain whole.queryPlain

theorem endsBefore (whole : uri.IsWhole server) :
    Authority.EndsBefore server.toList uri.writtenPathAndQuery.toList := by
  refine ⟨whole.namesServer.noTerminator, ?_⟩
  intro character rest begins
  rw [toList_writtenPathAndQuery] at begins
  rcases whole.begins with ⟨behindSlash, rooted⟩ | ⟨missing, asked⟩
  · rw [rooted] at begins
    cases begins
    rfl
  · obtain ⟨query, isQuery⟩ := Option.isSome_iff_exists.mp asked
    rw [missing, isQuery] at begins
    cases begins
    rfl

theorem writtenPath_eq (whole : uri.IsWhole server) :
    (if uri.writtenPath.isEmpty && uri.query.isNone then "/" else uri.writtenPath) =
      uri.writtenPath := by
  rcases whole.begins with ⟨_, rooted⟩ | ⟨missing, asked⟩
  · simp [isEmpty_of_rooted rooted]
  · obtain ⟨query, isQuery⟩ := Option.isSome_iff_exists.mp asked
    simp [missing, isQuery]

/-- A scheme with the server, the path and the query behind it is parsed as the reference. -/
theorem parse_eq (whole : uri.IsWhole server) (isScheme : uri.scheme = some scheme)
    (schemeFound : splitScheme characters = .ok (some scheme, front))
    (fits : text.utf8ByteSize ≤ greatestLength)
    (written : text.toList = scheme.toList ++ (':' :: '/' :: '/' ::
      (server.toList ++ uri.writtenPathAndQuery.toList))) :
    parse text = .ok uri := by
  have serverNotEmpty : server.toList.isEmpty = false := by simp [whole.namesServer.notEmpty]
  rw [parse_eq_behindScheme schemeFound fits (by simp [whole.namesServer.notEmpty]) written,
    parseBehindScheme, Authority.split_append whole.endsBefore, whole.namesServer.checked]
  simp only [Except.map, bind, Except.bind, serverNotEmpty, whole.splitPath_eq,
    whole.writtenPath_eq]
  rw [String.ofList_toList, ← whole.authority, ← isScheme]
  rfl

/-- The path that is shown begins with a slash, even if only a query is written. -/
theorem isWhole_path (whole : uri.IsWhole server) (isScheme : uri.scheme = some scheme) :
    IsWhole { uri with writtenPath := uri.path } server := by
  have shown : uri.path = "/" ∨
      uri.path = uri.writtenPath ∧ ∃ rest, uri.writtenPath.toList = '/' :: rest := by
    rcases whole.begins with ⟨rest, rooted⟩ | ⟨missing, _⟩
    · exact .inr ⟨by simp [path, isEmpty_of_rooted rooted], rest, rooted⟩
    · exact .inl (by simp [path, missing, isScheme])
  refine ⟨whole.authority, whole.namesServer, ?_, ?_, whole.queryPlain⟩
  · left
    rcases shown with isRoot | ⟨same, rest, rooted⟩
    · exact ⟨[], congrArg String.toList isRoot⟩
    · exact ⟨rest, (congrArg String.toList same).trans rooted⟩
  · rcases shown with isRoot | ⟨same, _⟩
    · dsimp only
      rw [isRoot]
      exact List.all_eq_true.mp rfl
    · dsimp only
      rw [same]
      exact whole.pathPlain

end IsWhole

theorem Parses.exists_isWhole (parses : Parses characters uri)
    (isScheme : uri.scheme = some scheme) :
    ∃ server front, uri.IsWhole server ∧ splitScheme characters = .ok (some scheme, front) := by
  cases parses with
  | asterisk => cases isScheme
  | path _ => cases isScheme
  | authority _ _ _ => cases isScheme
  | whole schemeFound notEmpty ends checked found =>
      cases isScheme
      exact ⟨_, _, isWhole_of_parts notEmpty ends checked found, schemeFound⟩

/-- A rendered reference is parsed as the reference, with the path that it shows. -/
theorem parse_render (parsed : parse text = .ok uri)
    (fits : uri.render.utf8ByteSize ≤ greatestLength) :
    parse uri.render = .ok { uri with writtenPath := uri.path } := by
  obtain ⟨parses, -⟩ := parses_of_parse parsed
  cases isScheme : uri.scheme with
  | some scheme =>
      obtain ⟨server, front, whole, schemeFound⟩ := parses.exists_isWhole isScheme
      rw [← isScheme]
      apply (whole.isWhole_path isScheme).parse_eq isScheme schemeFound fits
      simp [render, renderServer, isScheme, whole.authority, writtenPathAndQuery, renderQuery]
  | none =>
      generalize letters : text.toList = characters at parses
      cases parses with
      | asterisk => rfl
      | @path rest path query found =>
          obtain ⟨pathPlain, queryPlain⟩ := plain_of_splitPath found
          have rooted := congrArg String.toList (parts_of_splitPath found).1
          have shown : Uri.path ⟨none, none, path, query⟩ = path := by simp [Uri.path]
          have written : (render ⟨none, none, path, query⟩).toList =
              path.toList ++ (query.map fun text => '?' :: text.toList).getD [] := by
            simp [render, renderServer, shown, toList_renderQuery]
          rw [shown]
          apply parse_eq_of_rooted fits
          · rw [written, rooted, String.toList_ofList]
            rfl
          · rw [written]
            exact splitPath_append pathPlain queryPlain
      | authority notEmpty ends checked =>
          have same : render ⟨none, some ⟨String.ofList characters⟩, "", none⟩ = text := by
            simp [render, renderServer, Uri.path, renderQuery, ← letters]
          rw [same, parsed]
          rfl
      | whole _ _ _ _ _ => cases isScheme

end PrintProxy.Uri
