import PrintProxy.FileTree
import PrintProxy.Proofs.Record

/-!
# Records in a file tree

A directory that holds no directories takes every record of a plain name: the
path to the directory with the name behind it leads into the directory, and what
is listed there changes as a list of records does.  Making a directory only adds
directories to a tree.
-/

namespace PrintProxy

/-- The name of one file: it is a single step of a path, and goes somewhere. -/
structure IsFileName (name : String) : Prop where
  noSlash : '/' ∉ name.toList
  noNul : '\x00' ∉ name.toList
  moves : FileTree.stays name = false
  descends : name ≠ ".."
  short : name.utf8ByteSize ≤ greatestNameLength

theorem Message.isFileName_recordName {kind : String} (isKind : kind ∈ recordKinds)
    (message : Message) : IsFileName (message.recordName kind) := by
  obtain ⟨_, noSlash, noNul, _⟩ := plain_of_mem_recordKinds isKind
  have hyphenless (name : String) (without : '-' ∉ name.toList) :
      message.recordName kind ≠ name := by
    rintro rfl
    exact without hyphen_mem_recordName
  have absent {character : Char} (notInKind : character ∉ kind.toList)
      (noDigit : character.isDigit = false) (noOther : character ∉ "abcdef-.ip".toList) :
      character ∉ (message.recordName kind).toList := by
    intro member
    rcases mem_recordName member with inKind | digit | other
    · exact notInKind inKind
    · exact ne_of_isDigit digit character noDigit rfl
    · exact noOther other
  refine
    { noSlash := absent noSlash rfl (by decide)
      noNul := absent noNul rfl (by decide)
      moves := ?_
      descends := hyphenless ".." (by decide)
      short := Nat.le_trans (utf8ByteSize_recordName_le isKind) (by decide) }
  simp [FileTree.stays, hyphenless "" (by decide), hyphenless "." (by decide)]

namespace FileTree

/-- A path leads to a directory without directories in it, and leaves room for every name behind
it. -/
structure Receives (tree : FileTree) (path : String) (location : Location) : Prop where
  located : tree.locate? path = some location
  isDirectory : tree.isDirectory location
  onlyFiles : ∀ directory ∈ tree.directories, directory ≠ [] → directory.dropLast ≠ location
  room : path.utf8ByteSize + 1 + greatestNameLength ≤ greatestPathLength

variable {tree : FileTree} {path name : String} {location : Location} {content : Bytes}

theorem pathIn_eq (isName : IsFileName name) : pathIn path name = path ++ "/" ++ name := by
  have notAbsolute : (name.toList.head? == some '/') = false := by
    rw [beq_eq_false_iff_ne]
    intro head
    exact isName.noSlash (List.mem_of_mem_head? head)
  rw [pathIn, if_neg (by rw [notAbsolute]; exact Bool.false_ne_true)]

theorem steps?_eq_some_iff {steps : List String} :
    steps? path = some steps ↔
      path.utf8ByteSize ≤ greatestPathLength ∧ '\x00' ∉ path.toList ∧
        (path.toList.splitOn '/').map String.ofList = "" :: steps := by
  unfold steps?
  split
  · next impossible =>
      rw [Bool.or_eq_true, decide_eq_true_eq, List.contains_iff_mem] at impossible
      refine iff_of_false (by simp) ?_
      rintro ⟨fits, noNul, _⟩
      exact impossible.elim (Nat.not_lt.mpr fits) noNul
  · next possible =>
      rw [Bool.or_eq_true, decide_eq_true_eq, List.contains_iff_mem, not_or] at possible
      split
      · next absolute => simp [Nat.not_lt.mp possible.1, possible.2, absolute]
      · next relative =>
          refine iff_of_false (by simp) ?_
          rintro ⟨_, _, absolute⟩
          exact relative _ absolute

theorem steps?_append {steps : List String} (found : steps? path = some steps)
    (room : path.utf8ByteSize + 1 + greatestNameLength ≤ greatestPathLength)
    (isName : IsFileName name) : steps? (path ++ "/" ++ name) = some (steps ++ [name]) := by
  obtain ⟨_, noNul, absolute⟩ := steps?_eq_some_iff.mp found
  rw [steps?_eq_some_iff]
  refine ⟨?_, ?_, ?_⟩
  · have slashSize : "/".utf8ByteSize = 1 := by decide
    have short := isName.short
    rw [String.utf8ByteSize_append, String.utf8ByteSize_append]
    omega
  · simp [noNul, isName.noNul]
  · have pieces : (path.toList ++ '/' :: name.toList).splitOn '/' =
        path.toList.splitOn '/' ++ [name.toList] := by
      rw [List.splitOn_append_cons_self, List.splitOn_eq_singleton isName.noSlash]
    have whole : (path ++ "/" ++ name).toList = path.toList ++ '/' :: name.toList := by simp
    rw [whole, pieces, List.map_append, absolute]
    simp

theorem locate?_pathIn (receives : tree.Receives path location) (isName : IsFileName name) :
    tree.locate? (pathIn path name) = some (location ++ [name]) := by
  obtain ⟨steps, found, walked⟩ := Option.bind_eq_some_iff.mp receives.located
  have arrives : tree.step? location name = some (location ++ [name]) := by
    simp [step?, receives.isDirectory, isName.moves, isName.descends, isName.short]
  rw [pathIn_eq isName, locate?, steps?_append found receives.room isName, Option.bind_some,
    List.foldlM_append, walked]
  simpa using arrives

/-- Nothing stands where a record goes but perhaps an earlier record. -/
theorem isDirectory_concat (receives : tree.Receives path location) (name : String) :
    tree.isDirectory (location ++ [name]) = false := by
  have notRoot : (location ++ [name]).isEmpty = false := by simp
  have notListed : tree.directories.contains (location ++ [name]) = false := by
    rw [← Bool.not_eq_true, List.contains_iff_mem]
    intro member
    exact receives.onlyFiles _ member (by simp) List.dropLast_concat
  rw [isDirectory, notRoot, notListed, Bool.false_or]

/-- The record that an entry of a tree is in a directory. -/
def entryIn (directory : Location) (entry : Location × Bytes) : Option Record :=
  match entry.1.getLast? with
  | some name => if entry.1.dropLast = directory then some ⟨name, entry.2⟩ else none
  | none => none

theorem list_eq (tree : FileTree) (directory : Location) :
    tree.list directory =
      tree.files.filterMap (entryIn directory) ++
        (tree.directories.map fun location => (location, [])).filterMap (entryIn directory) :=
  List.filterMap_append

theorem list_eq_files (receives : tree.Receives path location) :
    tree.list location = tree.files.filterMap (entryIn location) := by
  have noneListed : (tree.directories.map fun directory => (directory, ([] : Bytes))).filterMap
      (entryIn location) = [] := by
    rw [List.filterMap_eq_nil_iff]
    intro entry member
    obtain ⟨directory, isListed, rfl⟩ := List.mem_map.mp member
    unfold entryIn
    split
    · next name named =>
        have notRoot : directory ≠ [] := by
          rintro rfl
          cases named
        rw [if_neg (receives.onlyFiles directory isListed notRoot)]
    · rfl
  rw [list_eq, noneListed, List.append_nil]

theorem entryIn_concat (location : Location) (name : String) (content : Bytes) :
    entryIn location (location ++ [name], content) = some ⟨name, content⟩ := by
  simp [entryIn]

/-- An entry of another place is no record, or one of another name. -/
theorem name_ne_of_entryIn {entry : Location × Bytes} {record : Record}
    (other : entry.1 ≠ location ++ [name]) (found : entryIn location entry = some record) :
    record.name ≠ name := by
  unfold entryIn at found
  split at found
  · next last named =>
      split at found
      · next inside =>
          cases found
          obtain ⟨front, place⟩ := List.getLast?_eq_some_iff.mp named
          rw [place, List.dropLast_concat] at inside
          rintro rfl
          exact other (by rw [place, inside])
      · cases found
  · cases found

theorem filterMap_entryIn_changeFirst (files : List (Location × Bytes)) :
    (changeFirst (·.1 == location ++ [name]) (fun _ => (location ++ [name], content))
        (location ++ [name], content) files).filterMap (entryIn location) =
      keepRecord (files.filterMap (entryIn location)) ⟨name, content⟩ := by
  induction files with
  | nil => simp [changeFirst, keepRecord, entryIn_concat]
  | cons entry files ih =>
      rw [changeFirst]
      split
      · next meant =>
          obtain ⟨place, old⟩ := entry
          obtain rfl : place = location ++ [name] := by simpa using meant
          simp [entryIn_concat, keepRecord, changeFirst]
      · next notMeant =>
          have other : entry.1 ≠ location ++ [name] := by simpa using notMeant
          cases found : entryIn location entry with
          | none => simpa [found] using ih
          | some record =>
              have otherName := name_ne_of_entryIn other found
              simp [found, ih, keepRecord, changeFirst, otherName]

/-- Files stand in nobody's way. -/
theorem Receives.withFiles (receives : tree.Receives path location)
    (files : List (Location × Bytes)) : { tree with files }.Receives path location :=
  ⟨receives.located, receives.isDirectory, receives.onlyFiles, receives.room⟩

/-- A record under a file's name is written, and the directory receives further ones. -/
theorem exists_record? (receives : tree.Receives path location) {record : Record}
    (isName : IsFileName record.name) :
    ∃ written, tree.record? path record = some written ∧ written.Receives path location ∧
      written.list location = keepRecord (tree.list location) record := by
  let files := changeFirst (·.1 == location ++ [record.name])
    (fun _ => (location ++ [record.name], record.content))
    (location ++ [record.name], record.content) tree.files
  have stays := receives.withFiles files
  refine ⟨{ tree with files }, ?_, stays, ?_⟩
  · rw [record?, write?, locate?_pathIn receives isName, Option.bind_some,
      isDirectory_concat receives, if_neg Bool.false_ne_true]
  · rw [list_eq_files stays, list_eq_files receives]
    exact filterMap_entryIn_changeFirst tree.files

theorem list_foldl_record? {records : List Record} (receives : tree.Receives path location)
    (areNames : ∀ record ∈ records, IsFileName record.name) :
    (records.foldl (fun tree record => (tree.record? path record).getD tree) tree).list location =
      records.foldl keepRecord (tree.list location) := by
  induction records generalizing tree with
  | nil => rfl
  | cons record records ih =>
      obtain ⟨isName, others⟩ := List.forall_mem_cons.mp areNames
      obtain ⟨written, wrote, stillReceives, listed⟩ := exists_record? receives isName
      rw [List.foldl_cons, List.foldl_cons, wrote, Option.getD_some, ih stillReceives others, listed]

theorem exists_makeAll_eq (tree : FileTree) (location : Location) (names : List String) :
    ∃ added, tree.makeAll location names =
      { tree with directories := tree.directories ++ added } := by
  induction names generalizing tree location with
  | nil => exact ⟨[], by simp [makeAll]⟩
  | cons name names ih =>
      rw [makeAll]
      split
      · exact ⟨[], by simp⟩
      · next next _ =>
          split
          · exact ih tree next
          · split
            · exact ⟨[], by simp⟩
            · obtain ⟨added, made⟩ :=
                ih { tree with directories := tree.directories ++ [next] } next
              exact ⟨next :: added, by simp [made]⟩

theorem exists_makeDirectory_eq (tree : FileTree) (path : String) :
    ∃ added, tree.makeDirectory path = { tree with directories := tree.directories ++ added } := by
  unfold makeDirectory
  split
  · exact ⟨[], by simp⟩
  · exact tree.exists_makeAll_eq _ _

/-- What is empty once it is made was empty before. -/
theorem list_eq_nil_of_makeDirectory (empty : (tree.makeDirectory path).list location = []) :
    tree.list location = [] := by
  obtain ⟨added, made⟩ := tree.exists_makeDirectory_eq path
  rw [made, list_eq, List.append_eq_nil_iff, List.map_append, List.filterMap_append,
    List.append_eq_nil_iff] at empty
  rw [list_eq, empty.1, empty.2.1, List.append_nil]

theorem onlyFiles_of_list_eq_nil (empty : tree.list location = []) :
    ∀ directory ∈ tree.directories, directory ≠ [] → directory.dropLast ≠ location := by
  intro directory isListed notRoot inside
  rw [list_eq, List.append_eq_nil_iff, List.filterMap_eq_nil_iff, List.filterMap_eq_nil_iff] at empty
  have noRecord := empty.2 (directory, []) (List.mem_map.mpr ⟨directory, isListed, rfl⟩)
  have place : directory = location ++ [directory.getLast notRoot] := by
    rw [← inside, List.dropLast_concat_getLast]
  rw [place, entryIn_concat] at noRecord
  cases noRecord

/-- The directory at a path can be made and is empty, and its path leaves room for every name. -/
structure OpensAt (tree : FileTree) (path : String) (location : Location) : Prop where
  located : (tree.makeDirectory path).locate? path = some location
  isDirectory : (tree.makeDirectory path).isDirectory location
  empty : (tree.makeDirectory path).list location = []
  room : path.utf8ByteSize + 1 + greatestNameLength ≤ greatestPathLength

theorem OpensAt.receives (opens : tree.OpensAt path location) :
    (tree.makeDirectory path).Receives path location :=
  ⟨opens.located, opens.isDirectory, onlyFiles_of_list_eq_nil opens.empty, opens.room⟩

/-- What is kept in a new directory is listed there. -/
theorem list_keep {records : List Record} (opens : tree.OpensAt path location)
    (areNames : ∀ record ∈ records, IsFileName record.name) :
    (tree.keep path records).list location = records.foldl keepRecord [] := by
  rw [keep, list_foldl_record? opens.receives areNames, opens.empty]

end FileTree

end PrintProxy
