import ScadAdvisor.CommandLine.Run

/-! # The program

All that a run needs of the file system is loaded first; the run itself is a function.
-/

namespace ScadAdvisor.CommandLine

def nativePath (path : Path) : String := String.ofList path.toText

/-- Everything below a directory, with empty files. Links to directories are not followed. -/
partial def outline (directory : String) : IO FileNode := do
  let here ← IO.currentDir
  let mut children := []
  for entry in ← (here / directory).readDir do
    let name := entry.fileName.toList
    let info ← entry.path.symlinkMetadata
    match info.type with
    | .dir => children := (name, ← outline entry.path.toString) :: children
    | .symlink =>
      let node := if ← entry.path.isDir then .directory [] else .file []
      if ← entry.path.pathExists then children := (name, node) :: children
    | _ => children := (name, .file []) :: children
  return .directory children

/-- Puts what a path leads to into the tree, together with the directories on the way. -/
def load (tree : FileTree) (path : Path) (node : String → IO (Option FileNode)) : IO FileTree := do
  let here ← IO.currentDir
  let mut tree := tree
  for n in List.range path.parts.length do
    if ← (here / nativePath (path.first n)).isDir then tree := tree.put (path.first n) (.directory [])
  match ← node (nativePath path) with
  | some found => return tree.put path found
  | none => return tree

/-- A file with its bytes, or a directory that is not looked into. -/
def readDocument (path : String) : IO (Option FileNode) := do
  let here ← IO.currentDir
  if ← (here / path).isDir then return some (.directory [])
  if ← (here / path).pathExists then
    return some (.file (← IO.FS.readBinFile (here / path)).toList)
  return none

/-- An empty file, or a directory with all that is below it. -/
def readOutline (path : String) : IO (Option FileNode) := do
  let here ← IO.currentDir
  if ← (here / path).isDir then return some (← outline path)
  if ← (here / path).pathExists then return some (.file [])
  return none

/-- The part of the file system that a request needs. -/
def snapshot (cwd : List Text) (request : Request) : IO FileTree := do
  let mut tree : FileTree := { root := (FileNode.directory []).insert cwd (.directory []), cwd }
  let (paths, options) := match request with
    | .help => ([], none)
    | .scan paths options => (paths, some options)
    | .checkText _ options => ([], some options)
  for path in paths do
    tree ← load tree path readOutline
  if let some options := options then
    let documents := ["pyproject.toml".toList, ".scadlint.toml".toList].map options.root.child
    for path in documents ++ options.config.toList do
      tree ← load tree path readDocument
  for path in sources tree request do
    tree ← load tree path readDocument
  return tree

def Ending.complaint : Ending → Option Text
  | .exit _ => none
  | .misuse fault => some fault.message
  | .failure fault => some fault.message

def runProgram (args : List Text) : IO UInt32 := do
  let cwd := Path.partsOf (← IO.currentDir).toString.toList
  let tree ← match Request.ofArguments args with
    | .ok request => snapshot cwd request
    | .error _ => pure {}
  let terminal ← (← IO.getStdout).isTty
  let result := run tree terminal {} args
  IO.print (String.ofList result.stdout)
  IO.eprint (String.ofList result.stderr)
  if let some message := result.ending.complaint then
    IO.eprintln ("Error: " ++ String.ofList message)
  return UInt32.ofNat result.ending.code

end ScadAdvisor.CommandLine

def main (args : List String) : IO UInt32 := ScadAdvisor.CommandLine.runProgram (args.map String.toList)
