import ScadAdvisor.File.Tree

/-! # Writing to a file tree

The directories that lead to a place are made first, in the order in which a path names them. A step up
leads out of a directory that has to be there.
-/

namespace ScadAdvisor

inductive WriteFault where
  | file (fault : FileFault) (path : Path)
  | nullInPath
deriving DecidableEq, Repr

def WriteFault.message : WriteFault → Text
  | .file fault path => fault.message path
  | .nullInPath => "embedded null byte".toList

namespace FileTree

/-! ## Directories -/

def makeDirectory (tree : FileTree) (path : Path) : Except FileFault FileTree :=
  match tree.lookup path with
  | .ok _ => .error .alreadyExists
  | .error .notFound => (tree.lookup path.parent).map fun _ => tree.put path (.directory [])
  | .error fault => .error fault

/-- A new directory, unless there is one already. -/
def keepDirectory (tree : FileTree) (path : Path) : Except WriteFault FileTree :=
  match tree.makeDirectory path, tree.isDirectory path with
  | .ok tree, _ => .ok tree
  | .error _, .ok true => .ok tree
  | .error fault, _ => .error (.file fault path)

/-- The directory at the first names of a path. Those above it are made only if one of them is missing. -/
def ensureFirst (path : Path) : Nat → FileTree → Except WriteFault FileTree
  | 0, tree => .ok tree
  | count + 1, tree =>
    let here := path.first (count + 1)
    match tree.makeDirectory here with
    | .error .notFound => do
      let tree ← ensureFirst path count tree
      tree.keepDirectory here
    | _ => tree.keepDirectory here

def ensureDirectory (tree : FileTree) (path : Path) : Except WriteFault FileTree :=
  if path.hasNull then .error .nullInPath else ensureFirst path path.parts.length tree

/-! ## Files -/

def write (tree : FileTree) (path : Path) (bytes : List UInt8) : Except WriteFault FileTree := do
  if path.hasNull then throw .nullInPath
  let tree ← tree.ensureDirectory path.parent
  match tree.lookup path with
  | .ok (.directory _) => throw (.file .isADirectory path)
  | .ok (.file _) | .error .notFound => return tree.put path (.file bytes)
  | .error fault => throw (.file fault path)

end FileTree

end ScadAdvisor
