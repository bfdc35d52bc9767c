/-!
Small trees of files, and the ways that paths take through them. Some of the directories outside are
known to be there, but of their files only the null device.
-/

namespace ResourceBroker

/-- The directory where a way starts: the one of the files, one somewhere above it, or the root. -/
inductive Start where
  | here
  | above
  | root
deriving DecidableEq, Repr

/-- What the names along a way lead to, the outermost first. -/
structure Place where
  start : Start
  names : List String
deriving DecidableEq, Repr

namespace Place

def child (name : String) (p : Place) : Place := { p with names := p.names ++ [name] }

def parent (p : Place) : Place :=
  match p.names, p.start with
  | [], .here => ⟨.above, []⟩
  | [], start => ⟨start, []⟩
  | names, start => ⟨start, names.dropLast⟩

end Place

/-- The steps of a path. Empty ones and dots stay where they are. -/
structure Path where
  start : Start
  steps : List String
deriving DecidableEq, Repr

namespace Path

/-- The bytes that a path may have, and those that a name may have. -/
def maxLength : Nat := 4095

def maxNameLength : Nat := 255

def ofText? (s : String) : Option Path :=
  if s.isEmpty ∨ maxLength < s.utf8ByteSize ∨ s.toList.any fun c => c.toNat = 0 then none
  else some ⟨if s.startsWith "/" then .root else .here, s.splitOn "/"⟩

end Path

inductive PathEntry where
  | missing
  | directory
  | file (content : ByteArray)
  | nullDevice

namespace PathEntry

def exists? : PathEntry → Bool
  | .missing => false
  | _ => true

def content? : PathEntry → Option ByteArray
  | .file content => some content
  | .nullDevice => some .empty
  | .missing | .directory => none

end PathEntry

/-- The entries that are known, the latest first. -/
structure FileTree where
  entries : List (Place × PathEntry)

namespace FileTree

def empty : FileTree :=
  ⟨(⟨.root, ["dev", "null"]⟩, .nullDevice) ::
    ["dev", "etc", "run", "tmp", "usr", "var"].map fun name => (⟨.root, [name]⟩, .directory)⟩

def put (place : Place) (entry : PathEntry) (tree : FileTree) : FileTree :=
  ⟨(place, entry) :: tree.entries⟩

def entry (tree : FileTree) (place : Place) : PathEntry :=
  if place.names.isEmpty then .directory else (tree.entries.lookup place).getD .missing

/-- A step from a place, which has to be a directory. What it leads to need not be there. -/
def step? (tree : FileTree) (place : Place) (name : String) : Option Place :=
  match tree.entry place with
  | .directory =>
    if name = "" ∨ name = "." then some place
    else if name = ".." then some place.parent
    else some (place.child name)
  | _ => none

def place? (tree : FileTree) (path : String) : Option Place := do
  let path ← Path.ofText? path
  path.steps.foldlM tree.step? ⟨path.start, []⟩

def lookup (tree : FileTree) (path : String) : PathEntry :=
  (tree.place? path).elim .missing tree.entry

def wayTo? (tree : FileTree) (path : String) : Option (FileTree × Place) := do
  let path ← Path.ofText? path
  let name ← path.steps.getLast?
  let make := fun ((tree, place) : FileTree × Place) (name : String) => do
    let place ← tree.step? place name
    match tree.entry place with
    | .missing =>
      if name.utf8ByteSize ≤ Path.maxNameLength then some (tree.put place .directory, place) else none
    | _ => some (tree, place)
  let (tree, directory) ← path.steps.dropLast.foldlM make (tree, ⟨path.start, []⟩)
  let place ← tree.step? directory name
  if place = directory.child name then pure (tree, place) else none

def ofFiles (files : List (String × ByteArray)) : FileTree :=
  files.foldl (fun tree (path, content) =>
    (tree.wayTo? path).elim tree fun (tree, place) => tree.put place (.file content)) empty

def opens (tree : FileTree) (path : String) : Bool :=
  (tree.place? path).any fun place =>
    match tree.entry place with
    | .file _ | .nullDevice => true
    | .directory => false
    | .missing => place.names.all fun name => name.utf8ByteSize ≤ Path.maxNameLength

def append (path : String) (content : ByteArray) (tree : FileTree) : FileTree :=
  match tree.opens path, tree.place? path with
  | true, some place =>
    match tree.entry place with
    | .file old => tree.put place (.file (old ++ content))
    | .missing => tree.put place (.file content)
    | .directory | .nullDevice => tree
  | _, _ => tree

def remove (path : String) (tree : FileTree) : FileTree :=
  match tree.place? path with
  | none => tree
  | some place => match tree.entry place with
    | .file _ => tree.put place .missing
    | _ => tree

end FileTree
end ResourceBroker
