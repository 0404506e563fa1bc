import ScadAdvisor.Table

/-! # Settings -/

namespace ScadAdvisor

structure ScanSettings where
  deprecations : Bool := true
  reassignments : Bool := true
  /-- Old parameter names and the names to use instead. -/
  parameters : Table Text :=
    [("filename".toList, "file".toList), ("layername".toList, "layer".toList),
     ("triangles".toList, "faces".toList)]
  /-- File extensions and what to say about them. -/
  extensions : Table Text :=
    [(".amf".toList, "AMF import is deprecated. Please use 3MF instead.".toList)]
  includes : List Text := ["*.scad".toList]
deriving DecidableEq, Repr

inductive OutputFormat where
  | text
  | json
deriving DecidableEq, Repr

namespace OutputFormat

def all : List OutputFormat := [.text, .json]

def name : OutputFormat → Text
  | .text => "text".toList
  | .json => "json".toList

def ofName? (text : Text) : Option OutputFormat := all.find? (·.name == text)

end OutputFormat

structure OutputSettings where
  color : Bool := true
  emoji : Bool := true
  format : OutputFormat := .text
deriving DecidableEq, Repr

structure Settings where
  scan : ScanSettings := {}
  output : OutputSettings := {}
deriving DecidableEq, Repr

end ScadAdvisor
