import ScadAdvisor.Text.Basic

/-! # Paths

A path is read with its repeated and trailing slashes and its single dots dropped. Two dots stay.
-/

namespace ScadAdvisor

structure Path where
  /-- The slashes of an absolute path; empty for a relative one. -/
  root : Text := []
  parts : List Text
deriving DecidableEq, Repr

namespace Path

/-- Two leading slashes are kept, and three or more are the same as one. -/
def rootOf (text : Text) : Text :=
  let slashes := text.takeWhile (· == '/')
  if slashes.length ≤ 2 then slashes else ['/']

def partsOf (text : Text) : List Text :=
  (Text.splitOn '/' text).filter fun part => !part.isEmpty && part != ['.']

def ofText (text : Text) : Path := { root := rootOf text, parts := partsOf text }

def toText (path : Path) : Text :=
  if path.root.isEmpty && path.parts.isEmpty then ['.']
  else path.root ++ Text.join ['/'] path.parts

def child (path : Path) (name : Text) : Path := { path with parts := path.parts ++ [name] }

def parent (path : Path) : Path := { path with parts := path.parts.dropLast }

def first (path : Path) (count : Nat) : Path := { path with parts := path.parts.take count }

def hasNull (path : Path) : Bool := path.parts.any fun part => part.contains '\x00'

/-- The components that paths are compared by. -/
def components (path : Path) : List Text :=
  if path.root.isEmpty then path.parts else path.root :: path.parts

def componentsLess : List Text → List Text → Bool
  | _, [] => false
  | [], _ :: _ => true
  | a :: as, b :: bs => Text.less a b || (a == b && componentsLess as bs)

def less (a b : Path) : Bool := componentsLess a.components b.components

/-- Puts a path into an increasing list, unless it is there already. -/
def insert (path : Path) : List Path → List Path
  | [] => [path]
  | p :: rest =>
    if path == p then p :: rest
    else if less path p then path :: p :: rest
    else p :: insert path rest

/-- The paths in increasing order, each of them once. -/
def sorted (paths : List Path) : List Path := paths.foldr insert []

end Path

end ScadAdvisor
