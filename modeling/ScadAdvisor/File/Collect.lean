import ScadAdvisor.File.Glob
import ScadAdvisor.File.Tree
import ScadAdvisor.Settings.Basic

/-! # The sources to scan

A file that is named is taken as it is. A directory is searched at every depth for the names that fit
one of the patterns.
-/

namespace ScadAdvisor

inductive GlobPart where
  | anywhere
  /-- What a slash at the end asks for: the directory itself. -/
  | here
  | exactly (name : Text)
  | fitting (pattern : Text)
deriving DecidableEq, Repr

inductive CollectFault where
  | notFound (path : Path)
  /-- A path that could not even be looked up. -/
  | file (fault : FileFault) (path : Path)
  | absolutePattern
  /-- Two stars together with other characters. -/
  | mixedStars
  /-- More components than a pattern can have, or more directories inside each other than a search can
  go down. -/
  | tooManyParts
deriving DecidableEq, Repr

def CollectFault.message : CollectFault → Text
  | .notFound path => "Path not found: ".toList ++ path.toText
  | .file fault path => fault.message path
  | .absolutePattern => "Non-relative patterns are unsupported".toList
  | .mixedStars => "Invalid pattern: '**' can only be an entire path component".toList
  | .tooManyParts => "maximum recursion depth exceeded".toList

namespace GlobPart

def ofText (part : Text) : Except CollectFault GlobPart :=
  if part == ['*', '*'] then .ok .anywhere
  else if (Text.findPair '*' '*' part).isSome then .error .mixedStars
  else if Glob.isWild part then .ok (.fitting part)
  else .ok (.exactly part)

/-- The components of a pattern, of which there can be `most`; the first fault from the left. A leading
slash is refused. -/
def ofPattern (most : Nat) (pattern : Text) : Except CollectFault (List GlobPart) := do
  if pattern.head? == some '/' then throw .absolutePattern
  let names := Path.partsOf pattern
  -- A component that is refused comes before the limit, unless it stands behind it.
  let parts ← (names.take most).mapM ofText
  if most < names.length then throw .tooManyParts
  return if pattern.getLast? == some '/' then parts ++ [.here] else parts

end GlobPart

namespace FileTree

def about {α : Type} (path : Path) : Except FileFault α → Except CollectFault α
  | .ok a => .ok a
  | .error fault => .error (.file fault path)

/-- The files below `path` that a pattern describes. Only a directory can be followed by further
components. -/
def select (tree : FileTree) : List GlobPart → Path → Except CollectFault (List Path)
  | [], path | .here :: _, path => do
    if ← about path (tree.isFile path) then return [path] else return []
  | .exactly name :: rest, path => do
    let next := path.child name
    let passes ← about next (if rest.isEmpty then tree.pathExists next else tree.isDirectory next)
    if passes then tree.select rest next else return []
  | .fitting pattern :: rest, path => do
    let fitting := (← about path (tree.entries path)).filter fun (name, node) =>
      Glob.fits pattern name && (rest.isEmpty || node.isDirectory)
    let found ← fitting.mapM fun (name, _) => tree.select rest (path.child name)
    return found.flatten
  | .anywhere :: rest, path => do
    let found ← (tree.directories path).mapM fun directory => do
      if path.parts.length + tree.limits.directories < directory.parts.length then throw .tooManyParts
      let files ← tree.select rest directory
      -- The way down needs the entries even if the rest of the pattern does not, but a fault of that
      -- rest comes first.
      let _ ← about directory (tree.entries directory)
      return files
    return found.flatten

def searchPattern (tree : FileTree) (directory : Path) (pattern : Text) :
    Except CollectFault (List Path) := do
  tree.select (.anywhere :: (← GlobPart.ofPattern tree.limits.patternParts pattern)) directory

def expand (tree : FileTree) (patterns : List Text) (path : Path) :
    Except CollectFault (List Path) := do
  if ← about path (tree.isFile path) then return [path]
  else if ← about path (tree.isDirectory path) then
    let found ← patterns.mapM (tree.searchPattern path)
    return found.flatten
  else throw (.notFound path)

/-- The sources that the given paths stand for, in increasing order and each of them once. -/
def collect (tree : FileTree) (patterns : List Text) (paths : List Path) :
    Except CollectFault (List Path) :=
  (paths.mapM (tree.expand patterns)).map fun found => Path.sorted found.flatten

end FileTree

end ScadAdvisor
