import PrintProxy.Record

/-!
# File trees

Documents come from files, and records go to files.  A tree holds directories
and files by the names that lead to them from the root.  A path is walked from
the root step by step, and every step starts in a directory.  Before records are
kept in a directory, it is made with all directories on the way to it.
-/

namespace PrintProxy

/-- The names that lead to a file or a directory from the root. -/
abbrev Location := List String

structure FileTree where
  /-- All directories but the root. -/
  directories : List Location
  files : List (Location × Bytes)
deriving DecidableEq, Repr

def greatestNameLength : Nat := 255

def greatestPathLength : Nat := 4095

namespace FileTree

def isDirectory (tree : FileTree) (location : Location) : Bool :=
  location.isEmpty || tree.directories.contains location

def isFile (tree : FileTree) (location : Location) : Bool :=
  (tree.files.lookup location).isSome

/-- The steps of an absolute path.  Other paths lead nowhere. -/
def steps? (path : String) : Option (List String) :=
  if greatestPathLength < path.utf8ByteSize || path.toList.contains '\x00' then none
  else
    match (path.toList.splitOn '/').map String.ofList with
    | "" :: steps => some steps
    | _ => none

/-- Whether a step stays where it starts. -/
def stays (name : String) : Bool := name == "" || name == "."

/-- Where a step from a location arrives.  It starts in a directory, but may arrive at nothing. -/
def step? (tree : FileTree) (location : Location) (name : String) : Option Location :=
  if !tree.isDirectory location then none
  else if stays name then some location
  else if name = ".." then some location.dropLast
  else if name.utf8ByteSize ≤ greatestNameLength then some (location ++ [name])
  else none

def locate? (tree : FileTree) (path : String) : Option Location :=
  (steps? path).bind fun steps => steps.foldlM tree.step? []

def read? (tree : FileTree) (path : String) : Option Bytes :=
  (tree.locate? path).bind fun location => tree.files.lookup location

/-- What stands in a directory.  A directory there has no content. -/
def list (tree : FileTree) (directory : Location) : List Record :=
  let entries := tree.files ++ tree.directories.map fun location => (location, [])
  entries.filterMap fun entry =>
    match entry.1.getLast? with
    | some name => if entry.1.dropLast = directory then some ⟨name, entry.2⟩ else none
    | none => none

/-- Makes the directories that the names lead through.  Making ends where a file is in the way. -/
def makeAll (tree : FileTree) (location : Location) : List String → FileTree
  | [] => tree
  | name :: rest =>
      match tree.step? location name with
      | none => tree
      | some next =>
          if tree.isDirectory next then tree.makeAll next rest
          else if tree.isFile next then tree
          else makeAll { tree with directories := tree.directories ++ [next] } next rest

/-- Whether a path ends by staying in its directory. -/
def endsInPlace (steps : List String) : Bool :=
  steps.reverse.find? (· ≠ "") == some "."

/-- Makes the directory that a path leads to, and all on the way to it.  A path that ends by staying
in its directory has none made, since nobody can stay in a directory that is not there yet. -/
def makeDirectory (tree : FileTree) (path : String) : FileTree :=
  match steps? path with
  | none => tree
  | some steps =>
      let names := steps.filter (!stays ·)
      tree.makeAll [] (if endsInPlace steps then names.dropLast else names)

def write? (tree : FileTree) (path : String) (content : Bytes) : Option FileTree :=
  (tree.locate? path).bind fun location =>
    if tree.isDirectory location then none
    else
      some
        { tree with
          files := changeFirst (·.1 == location) (fun _ => (location, content))
            (location, content) tree.files }

/-- The path of a name in a directory.  A name that is an absolute path leads elsewhere. -/
def pathIn (directory name : String) : String :=
  if name.toList.head? == some '/' then name else directory ++ "/" ++ name

def record? (tree : FileTree) (directory : String) (record : Record) : Option FileTree :=
  tree.write? (pathIn directory record.name) record.content

/-- Keeps records in a directory, which is made first.  A record that cannot be written is lost. -/
def keep (tree : FileTree) (directory : String) (records : List Record) : FileTree :=
  records.foldl (fun tree record => (tree.record? directory record).getD tree)
    (tree.makeDirectory directory)

end FileTree

end PrintProxy
