import ForeignCall.Files.Tree

/-!
# Access to files

What a program needs of the world: to read a file and to write one. A file tree gives that access to
a program that changes the tree.
-/

namespace ForeignCall

structure FileAccess (m : Type → Type) where
  read : Text → m (Except Text Text)
  write : Text → Text → m (Except Text Unit)

/-- Access to a file tree. -/
def FileTree.access : FileAccess (StateM FileTree) where
  read path := do return ((← get).read path).mapError FileFault.message
  write path text := do
    match (← get).write path text with
    | .ok t =>
      set t
      return .ok ()
    | .error fault => return .error fault.message

end ForeignCall
