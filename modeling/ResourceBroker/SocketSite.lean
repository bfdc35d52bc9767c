import ResourceBroker.FileTree

/-!
Where a socket is to be, and what may be in its way.
-/

namespace ResourceBroker

/-- What stands at the path. `unusable` is a path where no socket can be made: a file is in the place
of one of its directories, or it is too long, or it names a directory. -/
inductive SocketSite where
  | vacant
  | file (mode : Nat)
  | directory (mode : Nat)
  | socket
  | unusable
deriving DecidableEq, Repr

namespace SocketSite

def isOccupied : SocketSite → Bool
  | .vacant | .unusable => false
  | _ => true

def socketMode : Nat := 0o660

def mode? : SocketSite → Option Nat
  | .file mode | .directory mode => some mode
  | .socket => some socketMode
  | .vacant | .unusable => none

/-- Makes the socket. A file that is left over gives way to it. -/
def bind? : SocketSite → Option SocketSite
  | .vacant | .file _ | .socket => some .socket
  | .directory _ | .unusable => none

def maxPathLength : Nat := 107

def place? (tree : FileTree) (path : String) : Option Place :=
  if path.utf8ByteSize ≤ maxPathLength then (tree.wayTo? path).map Prod.snd else none

def ofPath (tree : FileTree) (path : String) : SocketSite :=
  match (place? tree path).map tree.entry with
  | none => .unusable
  | some .missing => .vacant
  | some .directory => .directory 0o755
  | some _ => .file 0o644

end SocketSite
end ResourceBroker
