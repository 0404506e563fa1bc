import ScadAdvisor.Text.Basic

/-! # Assignments and signatures at the start of a line -/

namespace ScadAdvisor.Reassignment

structure Assignment where
  offset : Nat
  name : Text
  name_ne_nil : name ≠ []
deriving DecidableEq, Repr

/-- A name, an equals sign, and then some character that is no equals sign. Spaces may stand before
the name and behind it. -/
def assignment? (line : Text) : Option Assignment :=
  let rest := line.dropWhile Ascii.isSpace
  let name := rest.takeWhile Ascii.isWord
  if h : name = [] then none
  else match (rest.dropWhile Ascii.isWord).dropWhile Ascii.isSpace with
    | '=' :: c :: _ =>
      if c == '=' then none else some ⟨(line.takeWhile Ascii.isSpace).length, name, h⟩
    | _ => none

def signatureWords : List Text := ["module".toList, "function".toList]

/-- One of the two words, at least one space, a name and an opening parenthesis. -/
def isSignature (line : Text) : Bool :=
  let rest := line.dropWhile Ascii.isSpace
  signatureWords.any fun word =>
    let gap := rest.drop word.length
    let name := gap.dropWhile Ascii.isSpace
    word.isPrefixOf rest && (gap.head?).any Ascii.isSpace && (name.head?).any Ascii.isWord &&
      ((name.dropWhile Ascii.isWord).dropWhile Ascii.isSpace).head? == some '('

def keywords : List Text :=
  ["module".toList, "function".toList, "if".toList, "else".toList, "for".toList, "let".toList,
   "each".toList]

end ScadAdvisor.Reassignment
