import PrintProxy.Dispatcher.Submit
import PrintProxy.FileTree

/-!
# A dispatcher's files

The documents that a dispatcher prints come from a tree of files, and what it
records goes into one.
-/

namespace PrintProxy

/-- The files of a tree by their paths. -/
def FileTree.contents (tree : FileTree) : FileContents := fun path =>
  match tree.read? path with
  | some content => .ok content
  | none => .error (.io path)

/-- The files when a dispatcher has come to a state: its records stand in its target's directory,
which is made when the first request goes out. -/
def Dispatcher.store (dispatcher : Dispatcher) (state : State) (tree : FileTree) : FileTree :=
  match dispatcher.target with
  | .server _ => tree
  | .directory path =>
      if dispatcher.recording && state.nextRequestId != 1 then tree.keep path state.records
      else tree

end PrintProxy
