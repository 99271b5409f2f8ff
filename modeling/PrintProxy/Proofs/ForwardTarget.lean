import PrintProxy.ForwardTarget
import PrintProxy.Proofs.Uri.Rendering

/-!
# Forward targets and their texts

The text of a server is read as the server.  That of a directory is the path
behind a mark, and reading takes all pairs of slashes off the front of what
stands there.  Of an odd number of slashes one is left, which starts at the root
as they do together.  Of an even number nothing is left, so that the directory is
looked for elsewhere, or nowhere.
-/

namespace PrintProxy

namespace DirectoryPath

variable {characters rest : List Char}

def isAbsolute (characters : List Char) : Bool := characters.head? == some '/'

/-- The names in a path.  Slashes in a row are one, and a `.` stays where it stands, but is a name
at the front. -/
def names (characters : List Char) : List (List Char) :=
  match characters.splitOn '/' with
  | [] => []
  | first :: others => (first :: others.filter (· ≠ ['.'])).filter (· ≠ [])

/-- The paths lead the same way. -/
def SameWay (characters others : List Char) : Prop :=
  isAbsolute characters = isAbsolute others ∧ names characters = names others

/-- How many slashes stand at the front. -/
def slashes (characters : List Char) : Nat := (characters.takeWhile (· == '/')).length

def behindSlashes (characters : List Char) : List Char := characters.dropWhile (· == '/')

/-- The slashes at the front are pairs, at least one. -/
def BeginsWithPairs (characters : List Char) : Prop :=
  0 < slashes characters ∧ slashes characters % 2 = 0

instance (characters : List Char) : Decidable (BeginsWithPairs characters) :=
  inferInstanceAs (Decidable (_ ∧ _))

theorem replicate_append_behindSlashes (characters : List Char) :
    List.replicate (slashes characters) '/' ++ behindSlashes characters = characters := by
  have isFront : List.replicate (slashes characters) '/' = characters.takeWhile (· == '/') := by
    rw [eq_comm, List.eq_replicate_iff]
    refine ⟨rfl, ?_⟩
    intro character member
    have isSlash := List.mem_takeWhile_imp member
    exact beq_iff_eq.mp isSlash
  rw [isFront]
  exact List.takeWhile_append_dropWhile

theorem not_isAbsolute_behindSlashes (characters : List Char) :
    isAbsolute (behindSlashes characters) = false := by
  have stops := List.head?_dropWhile_not (· == '/') characters
  rw [isAbsolute, behindSlashes]
  cases behind : characters.dropWhile (· == '/') with
  | nil => rfl
  | cons first others => simpa [behind] using stops

theorem isAbsolute_iff : isAbsolute characters ↔ 0 < slashes characters := by
  cases characters with
  | nil => simp [isAbsolute, slashes]
  | cons first others => by_cases isSlash : first = '/' <;> simp [isAbsolute, slashes, isSlash]

theorem splitOn_slash (characters : List Char) :
    ('/' :: characters).splitOn '/' = [] :: characters.splitOn '/' := by
  simp [List.splitOn, List.splitOnP_cons_eq_if_modifyHead]

theorem names_slash (characters : List Char) :
    names ('/' :: characters) =
      ((characters.splitOn '/').filter (· ≠ ['.'])).filter (· ≠ []) := by
  simp [names, splitOn_slash]

/-- Slashes in a row are one. -/
theorem same_slash_slash (characters : List Char) :
    SameWay ('/' :: '/' :: characters) ('/' :: characters) := by
  refine ⟨rfl, ?_⟩
  rw [names_slash, names_slash, splitOn_slash]
  simp

theorem same_replicate (count : Nat) (characters : List Char) :
    SameWay (List.replicate (count + 1) '/' ++ characters) ('/' :: characters) := by
  induction count with
  | zero => exact ⟨rfl, rfl⟩
  | succ count ih =>
      have front := same_slash_slash (List.replicate count '/' ++ characters)
      exact ⟨front.1.trans ih.1, front.2.trans ih.2⟩

end DirectoryPath

/-- The references have the same parts, as far as they are shown. -/
structure Uri.Same (uri other : Uri) : Prop where
  scheme : uri.scheme = other.scheme
  authority : uri.authority = other.authority
  path : uri.path = other.path
  query : uri.query = other.query

namespace ForwardTarget

open DirectoryPath

def Same : ForwardTarget → ForwardTarget → Prop
  | server uri, server other => uri.Same other
  | directory path, directory other => SameWay path.toList other.toList
  | _, _ => False

/-- The targets that have a text: a directory has a path, and the URI of a server has a scheme that
servers have and is not too long when it is written. -/
inductive IsProper : ForwardTarget → Prop where
  | server {text scheme : String} {uri : Uri} :
      Uri.parse text = .ok uri →
      uri.scheme = some scheme →
      scheme ∈ serverSchemes →
      uri.render.utf8ByteSize ≤ Uri.greatestLength →
      IsProper (.server uri)
  | directory {path : String} : path ≠ "" → IsProper (.directory path)

/-- The target is a directory whose path loses all slashes at its front. -/
def LosesRoot : ForwardTarget → Prop
  | server _ => False
  | directory path => BeginsWithPairs path.toList

variable {target : ForwardTarget} {uri : Uri} {path text scheme : String}

theorem directoryText?_render_server (isScheme : uri.scheme = some scheme)
    (isServer : scheme ∈ serverSchemes) : directoryText? (render (.server uri)) = none := by
  have text : (render (.server uri)).toList = scheme.toList ++
      (':' :: '/' :: '/' :: ((uri.authority.map Authority.text).getD "" ++ uri.path ++
        uri.renderQuery).toList) := by
    rw [render, Uri.render, Uri.renderServer, isScheme]
    cases uri.authority <;> simp
  have noMark : "file:".toList.isPrefixOf (render (.server uri)).toList = false := by
    rw [text]
    simp only [serverSchemes, List.mem_cons, List.not_mem_nil, or_false] at isServer
    rcases isServer with rfl | rfl | rfl | rfl <;> rfl
  rw [directoryText?, noMark, if_neg Bool.false_ne_true]

theorem parse_render_server (parsed : Uri.parse text = .ok uri)
    (isScheme : uri.scheme = some scheme) (isServer : scheme ∈ serverSchemes)
    (fits : uri.render.utf8ByteSize ≤ Uri.greatestLength) :
    parse (render (.server uri)) = .ok (.server { uri with writtenPath := uri.path }) := by
  have known : serverSchemes.any (uri.scheme == some ·) = true := by
    rw [List.any_eq_true]
    exact ⟨scheme, isServer, by simp [isScheme]⟩
  have again : Uri.parse (render (.server uri)) = .ok { uri with writtenPath := uri.path } :=
    Uri.parse_render parsed fits
  simp only [parse, directoryText?_render_server isScheme isServer, again, known]
  rfl

theorem same_writtenPath (isScheme : uri.scheme = some scheme) :
    uri.Same { uri with writtenPath := uri.path } where
  scheme := rfl
  authority := rfl
  path := by
    simp only [Uri.path, isScheme, Option.isSome_some, Bool.and_true]
    split <;> simp [*]
  query := rfl

/-- Reading leaves what stands behind the slashes, and one slash of an odd number. -/
theorem dropSlashPairs_eq (characters : List Char) :
    dropSlashPairs characters =
      if slashes characters % 2 = 0 then behindSlashes characters
      else '/' :: behindSlashes characters := by
  induction characters using dropSlashPairs.induct with
  | case1 rest ih =>
      have count : slashes ('/' :: '/' :: rest) = slashes rest + 2 := rfl
      have behind : behindSlashes ('/' :: '/' :: rest) = behindSlashes rest := rfl
      rw [dropSlashPairs, ih, count, behind, Nat.add_mod_right]
  | case2 characters noPair =>
      rw [dropSlashPairs]
      · cases characters with
        | nil => rfl
        | cons first others =>
            by_cases isSlash : first = '/'
            · subst isSlash
              cases others with
              | nil => rfl
              | cons second rest =>
                  have isOther : second ≠ '/' := by
                    rintro rfl
                    exact noPair rest rfl
                  simp [slashes, behindSlashes, isOther]
            · simp [slashes, behindSlashes, isSlash]
      · exact noPair

theorem parse_render_directory (path : String) :
    parse (render (.directory path)) =
      match dropSlashPairs path.toList with
      | [] => .error (.refused (.noDirectory (render (.directory path))))
      | kept => .ok (.directory (String.ofList kept)) := by
  have text : directoryText? (render (.directory path)) = some path.toList := by
    simp [directoryText?, render]
  cases kept : dropSlashPairs path.toList with
  | nil => simp only [parse, text, kept]
  | cons first others => simp only [parse, text, kept]

theorem behindSlashes_of_even {characters : List Char} (keeps : ¬BeginsWithPairs characters)
    (even : slashes characters % 2 = 0) : behindSlashes characters = characters := by
  have whole := replicate_append_behindSlashes characters
  have none : slashes characters = 0 := by
    rw [BeginsWithPairs] at keeps
    omega
  rwa [none] at whole

/-- A path that keeps its root is read as a path that leads the same way. -/
theorem same_dropSlashPairs {characters : List Char} (keeps : ¬BeginsWithPairs characters) :
    SameWay characters (dropSlashPairs characters) := by
  rw [dropSlashPairs_eq]
  split
  · next even =>
      rw [behindSlashes_of_even keeps even]
      exact ⟨rfl, rfl⟩
  · next odd =>
      obtain ⟨count, some⟩ : ∃ count, slashes characters = count + 1 :=
        ⟨slashes characters - 1, by omega⟩
      have same := same_replicate count (behindSlashes characters)
      rwa [← some, replicate_append_behindSlashes] at same

theorem dropSlashPairs_ne_nil {characters : List Char} (keeps : ¬BeginsWithPairs characters)
    (notEmpty : characters ≠ []) : dropSlashPairs characters ≠ [] := by
  rw [dropSlashPairs_eq]
  split
  · next even => rwa [behindSlashes_of_even keeps even]
  · exact List.cons_ne_nil _ _

theorem parse_render_of_keepsRoot (notEmpty : path ≠ "") (keeps : ¬BeginsWithPairs path.toList) :
    ∃ read, parse (render (.directory path)) = .ok (.directory read) ∧
      SameWay path.toList read.toList := by
  have kept := dropSlashPairs_ne_nil keeps (mt String.toList_eq_nil_iff.mp notEmpty)
  have same := same_dropSlashPairs keeps
  rw [parse_render_directory]
  cases letters : dropSlashPairs path.toList with
  | nil => exact absurd letters kept
  | cons first others =>
      rw [letters] at same
      exact ⟨_, rfl, by rwa [String.toList_ofList]⟩

/-- A path that loses its root is read as the rest, if there is any. -/
theorem parse_render_of_beginsWithPairs (loses : BeginsWithPairs path.toList) :
    parse (render (.directory path)) =
      if behindSlashes path.toList = [] then
        .error (.refused (.noDirectory (render (.directory path))))
      else .ok (.directory (String.ofList (behindSlashes path.toList))) := by
  rw [parse_render_directory, dropSlashPairs_eq, if_pos loses.2]
  cases behindSlashes path.toList with
  | nil => rfl
  | cons first others => rfl

/-- The text of a target is read as the target unless its root is lost. -/
theorem parse_render_same_iff (proper : target.IsProper) :
    (∃ read, parse target.render = .ok read ∧ target.Same read) ↔ ¬target.LosesRoot := by
  cases proper with
  | server parsed isScheme isServer fits =>
      have found := parse_render_server parsed isScheme isServer fits
      exact iff_of_true ⟨_, found, same_writtenPath isScheme⟩ id
  | directory notEmpty =>
      constructor
      · rintro ⟨read, found, same⟩ loses
        rw [parse_render_of_beginsWithPairs loses] at found
        split at found
        · cases found
        · cases found
          have absolute := isAbsolute_iff.mpr loses.1
          rw [same.1, String.toList_ofList, not_isAbsolute_behindSlashes] at absolute
          cases absolute
      · intro keeps
        obtain ⟨read, found, same⟩ := parse_render_of_keepsRoot notEmpty keeps
        exact ⟨_, found, same⟩

/-- An absolute path comes back as a relative one exactly if it loses its root and something stands
behind. -/
theorem parse_render_relative_iff (notEmpty : path ≠ "") (absolute : isAbsolute path.toList) :
    (∃ read, parse (render (.directory path)) = .ok (.directory read) ∧
        isAbsolute read.toList = false) ↔
      BeginsWithPairs path.toList ∧ behindSlashes path.toList ≠ [] := by
  constructor
  · rintro ⟨read, found, relative⟩
    by_cases loses : BeginsWithPairs path.toList
    · refine ⟨loses, ?_⟩
      intro nothing
      rw [parse_render_of_beginsWithPairs loses, if_pos nothing] at found
      cases found
    · obtain ⟨_, foundSame, same⟩ := parse_render_of_keepsRoot notEmpty loses
      rw [found] at foundSame
      cases foundSame
      rw [← same.1, absolute] at relative
      cases relative
  · rintro ⟨loses, something⟩
    rw [parse_render_of_beginsWithPairs loses, if_neg something]
    refine ⟨_, rfl, ?_⟩
    rw [String.toList_ofList]
    exact not_isAbsolute_behindSlashes _

end ForwardTarget

end PrintProxy
