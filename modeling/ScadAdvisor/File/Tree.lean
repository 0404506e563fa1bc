import ScadAdvisor.File.Path
import ScadAdvisor.Text.Quoted
import ScadAdvisor.Text.Utf8

/-! # File trees

The files that a run can see are a value: a tree and the directory that the run starts in. There are no
symbolic links in it. A search would go down into no directory that is one, although such a link counts as
a directory when it is asked about.
-/

namespace ScadAdvisor

inductive FileNode where
  | file (bytes : List UInt8)
  | directory (children : List (Text × FileNode))
deriving Repr, Inhabited

inductive FileFault where
  | notFound
  | notADirectory
  | isADirectory
  | alreadyExists
  | nameTooLong
deriving DecidableEq, Repr

namespace FileFault

def number : FileFault → Nat
  | .notFound => 2
  | .alreadyExists => 17
  | .notADirectory => 20
  | .isADirectory => 21
  | .nameTooLong => 36

def reason : FileFault → Text
  | .notFound => "No such file or directory".toList
  | .notADirectory => "Not a directory".toList
  | .isADirectory => "Is a directory".toList
  | .alreadyExists => "File exists".toList
  | .nameTooLong => "File name too long".toList

def message (fault : FileFault) (path : Path) : Text :=
  "[Errno ".toList ++ Text.ofNat fault.number ++ "] ".toList ++ fault.reason ++ ": ".toList ++
    Text.quoted path.toText

end FileFault

namespace FileNode

def isDirectory : FileNode → Bool
  | .directory _ => true
  | .file _ => false

def child? (name : Text) : List (Text × FileNode) → Option FileNode
  | [] => none
  | (n, node) :: rest => if n == name then some node else child? name rest

def putChild (name : Text) (node : FileNode) : List (Text × FileNode) → List (Text × FileNode)
  | [] => [(name, node)]
  | (n, old) :: rest =>
    if n == name then (name, node) :: rest else (n, old) :: putChild name node rest

/-- Puts a node at a place below, and makes the directories that lead there. A directory that is there
already stays as it is. -/
def insert (old : FileNode) : List Text → FileNode → FileNode
  | [], new =>
    match new, old with
    | .directory [], .directory children => .directory children
    | new, _ => new
  | name :: rest, new =>
    let children := match old with
      | .directory children => children
      | .file _ => []
    let below := (child? name children).getD (.directory [])
    .directory (putChild name (insert below rest new) children)

mutual

/-- The directories below a node and the node itself, as the names that lead to them. -/
def directories : FileNode → List (List Text)
  | .file _ => []
  | .directory children => [] :: childDirectories children

def childDirectories : List (Text × FileNode) → List (List Text)
  | [] => []
  | (name, node) :: rest => (directories node).map (name :: ·) ++ childDirectories rest

end

end FileNode

/-- How deep a run may go before the interpreter's stack is used up. The stack holds a thousand calls by
default, and whoever calls has taken some of them already: the defaults here are what a call from the top
has left, and any deeper caller has a little less. -/
structure StackLimits where
  /-- The components of a search pattern, which take five calls each. -/
  patternParts : Nat := 196
  /-- The directories inside each other that a search goes down. -/
  directories : Nat := 984
  /-- The levels of a document's arrays and inline tables. -/
  levels : Nat := 984
  /-- The mappings inside each other that two layers share. -/
  overlap : Nat := 985
deriving DecidableEq, Repr, Inhabited

/-- The root of all files, the way to the working directory, and how deep a run may go. -/
structure FileTree where
  root : FileNode := .directory []
  cwd : List Text := []
  limits : StackLimits := {}
deriving Repr, Inhabited

namespace FileTree

/-! ## Finding -/

def maxNameSize : Nat := 255

def maxPathSize : Nat := 4095

/-- Follows names from the first of `nodes`, the others being the directories above it. -/
def walk : List FileNode → List Text → Except FileFault (List FileNode)
  | nodes, [] => .ok nodes
  | [], _ :: _ => .error .notFound
  | .file _ :: _, _ :: _ => .error .notADirectory
  | .directory children :: above, name :: rest =>
    if Utf8.size name > maxNameSize then .error .nameTooLong
    else if name == ['.', '.'] then
      walk (if above.isEmpty then [.directory children] else above) rest
    else
      match FileNode.child? name children with
      | some node => walk (node :: .directory children :: above) rest
      | none => .error .notFound

def lookup (tree : FileTree) (path : Path) : Except FileFault FileNode := do
  if Utf8.size path.toText > maxPathSize then throw .nameTooLong
  let start ← if path.root.isEmpty then walk [tree.root] tree.cwd else pure [tree.root]
  match ← walk start path.parts with
  | node :: _ => pure node
  | [] => throw .notFound

/-- What a path leads to, if it leads anywhere. Only a name that is too long is a fault; where there is a
null character in the path, nothing is looked for. -/
def find (tree : FileTree) (path : Path) : Except FileFault (Option FileNode) :=
  if path.hasNull then .ok none
  else
    match tree.lookup path with
    | .ok node => .ok (some node)
    | .error .nameTooLong => .error .nameTooLong
    | .error _ => .ok none

def pathExists (tree : FileTree) (path : Path) : Except FileFault Bool :=
  (tree.find path).map Option.isSome

def isFile (tree : FileTree) (path : Path) : Except FileFault Bool :=
  (tree.find path).map fun
    | some (.file _) => true
    | _ => false

def isDirectory (tree : FileTree) (path : Path) : Except FileFault Bool :=
  (tree.find path).map fun
    | some (.directory _) => true
    | _ => false

/-! ## Reading -/

def read (tree : FileTree) (path : Path) : Except FileFault (List UInt8) := do
  match ← tree.lookup path with
  | .file bytes => pure bytes
  | .directory _ => throw .isADirectory

def entries (tree : FileTree) (path : Path) : Except FileFault (List (Text × FileNode)) := do
  match ← tree.lookup path with
  | .directory children => pure children
  | .file _ => throw .notADirectory

/-- The directory at a path and all directories below it. What is below a path that is too long stays
unknown. -/
def directories (tree : FileTree) (path : Path) : List Path :=
  match tree.lookup path with
  | .ok node => node.directories.map fun names => names.foldl Path.child path
  | .error _ => [path]

/-! ## Putting -/

/-- The names that lead from the root to a path, with the steps up taken. -/
def placeOf (tree : FileTree) (path : Path) : List Text :=
  ((if path.root.isEmpty then tree.cwd else []) ++ path.parts).foldl
    (fun names name => if name == ['.', '.'] then names.dropLast else names ++ [name]) []

def put (tree : FileTree) (path : Path) (node : FileNode) : FileTree :=
  { tree with root := tree.root.insert (tree.placeOf path) node }

end FileTree

inductive ReadFault where
  | file (fault : FileFault) (path : Path)
  | nullInPath
  | encoding (fault : Utf8Fault)
deriving DecidableEq, Repr

def ReadFault.message : ReadFault → Text
  | .file fault path => fault.message path
  | .nullInPath => "embedded null byte".toList
  | .encoding fault => fault.message

/-- The text of a source file. Its line ends are unified, and a mark of the byte order stays. -/
def FileTree.readText (tree : FileTree) (path : Path) : Except ReadFault Text :=
  if path.hasNull then .error .nullInPath
  else
    match tree.read path with
    | .error fault => .error (.file fault path)
    | .ok bytes =>
      match Utf8.decode bytes with
      | .error fault => .error (.encoding fault)
      | .ok text => .ok (Text.unifyNewlines text)

end ScadAdvisor
