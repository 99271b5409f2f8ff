import PrintProxy.Proofs.Text.Length
import PrintProxy.Proofs.Uri.Parsing

/-!
# The lengths of URI references

Parsing copies the parts of a URI reference, and rendering puts them together
again, so what is rendered is no longer than what was parsed, but for the `/`
of a missing path.
-/

namespace PrintProxy

open String (utf8Len utf8ByteSize_ofList utf8Len_append utf8Len_cons)

namespace Uri

theorem utf8Len_of_hasFront {front : String} {characters : List Char}
    (found : hasFront front characters = true) :
    front.toList.length + utf8Len (characters.drop front.toList.length) ≤ utf8Len characters := by
  have same := congrArg List.length (eq_of_beq found)
  rw [List.length_map] at same
  have split := congrArg utf8Len (List.take_append_drop front.toList.length characters)
  have enough := length_le_utf8Len (characters.take front.toList.length)
  rw [utf8Len_append] at split
  omega

theorem utf8Len_of_splitScheme {characters rest : List Char} {scheme : String}
    (found : splitScheme characters = .ok (some scheme, rest)) :
    scheme.utf8ByteSize + 3 + utf8Len rest ≤ utf8Len characters := by
  unfold splitScheme at found
  split at found
  · next front =>
      cases found
      exact utf8Len_of_hasFront front
  · split at found
    · next front =>
        cases found
        exact utf8Len_of_hasFront front
    · split at found
      · cases found
      · dsimp only at found
        split at found
        · next behind =>
            split at found
            · cases found
            · cases found
              have parts := utf8Len_takeWhile_add_dropWhile isSchemeCharacter characters
              rw [behind] at parts
              simp only [utf8Len_cons] at parts
              rw [utf8ByteSize_ofList]
              have colon : ':'.utf8Size = 1 := by decide
              have slash : '/'.utf8Size = 1 := by decide
              omega
        · cases found

theorem utf8Len_of_splitPath {characters : List Char} {path : String} {query : Option String}
    (found : splitPath characters = .ok (path, query)) (uri : Uri) (queryKept : uri.query = query) :
    path.utf8ByteSize + uri.renderQuery.utf8ByteSize ≤ utf8Len characters := by
  obtain ⟨rfl, queryFound⟩ := parts_of_splitPath found
  have parts := utf8Len_takeWhile_add_dropWhile
    (fun character => character != '?' && character != '#') characters
  rw [renderQuery, queryKept, utf8ByteSize_ofList]
  rcases queryFound with rfl | ⟨rest, behind, rfl⟩
  · simp only [String.utf8ByteSize_empty]
    omega
  · have queryParts := utf8Len_takeWhile_add_dropWhile (· != '#') rest
    have mark : '?'.utf8Size = 1 := by decide
    have markText : "?".utf8ByteSize = 1 := by decide
    rw [behind, utf8Len_cons] at parts
    simp only [String.utf8ByteSize_append, utf8ByteSize_ofList]
    omega

theorem utf8ByteSize_render (uri : Uri) :
    uri.render.utf8ByteSize =
      uri.renderServer.utf8ByteSize + uri.path.utf8ByteSize + uri.renderQuery.utf8ByteSize := by
  simp only [render, String.utf8ByteSize_append]

theorem path_of_scheme_none {uri : Uri} (noScheme : uri.scheme = none) :
    uri.path = uri.writtenPath := by
  simp [path, noScheme]

theorem path_eq_root_or (uri : Uri) : uri.path = "/" ∨ uri.path = uri.writtenPath := by
  rw [path]
  split
  · exact .inl rfl
  · exact .inr rfl

theorem Parses.utf8ByteSize_render_le {characters : List Char} {uri : Uri}
    (parses : Parses characters uri) : uri.render.utf8ByteSize ≤ utf8Len characters + 1 := by
  rw [utf8ByteSize_render]
  cases parses with
  | asterisk => decide
  | @path rest path query found =>
      have parts := utf8Len_of_splitPath found ⟨none, none, path, query⟩ rfl
      rw [path_of_scheme_none rfl]
      simp only [renderServer, String.utf8ByteSize_append, String.utf8ByteSize_empty]
      omega
  | authority _ _ _ =>
      rw [path_of_scheme_none rfl]
      simp only [renderServer, renderQuery, String.utf8ByteSize_append, String.utf8ByteSize_empty,
        utf8ByteSize_ofList]
      omega
  | @whole _ front back scheme path query schemeFound _ _ _ found =>
      have server := utf8Len_of_splitScheme schemeFound
      have parts := utf8Len_of_splitPath found ⟨none, none, path, query⟩ rfl
      have separator : "://".utf8ByteSize = 3 := by decide
      have root : "/".utf8ByteSize = 1 := by decide
      have pathSize : (Uri.path ⟨some scheme, some ⟨String.ofList front⟩,
          if path.isEmpty && query.isNone then "/" else path, query⟩).utf8ByteSize ≤
          path.utf8ByteSize + 1 := by
        rcases path_eq_root_or ⟨some scheme, some ⟨String.ofList front⟩,
          if path.isEmpty && query.isNone then "/" else path, query⟩ with same | same
        · rw [same]
          omega
        · rw [same]
          dsimp only
          split <;> omega
      rw [utf8Len_append] at server
      simp only [renderServer, renderQuery, String.utf8ByteSize_append, utf8ByteSize_ofList]
        at parts ⊢
      omega

theorem utf8ByteSize_render_of_parse {text : String} {uri : Uri} (parsed : parse text = .ok uri) :
    uri.render.utf8ByteSize ≤ greatestLength + 1 := by
  obtain ⟨parses, inBounds⟩ := parses_of_parse parsed
  have bound := parses.utf8ByteSize_render_le
  rw [utf8Len_toList] at bound
  omega

end Uri

end PrintProxy
