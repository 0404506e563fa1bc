import ScadAdvisor.Toml.Moment
import ScadAdvisor.Toml.Number
import ScadAdvisor.Toml.Tree

/-! # Values of a TOML document -/

namespace ScadAdvisor.Toml

def required {α : Type} : Option α → Except Fault α
  | some a => .ok a
  | none => .error .malformed

/-- A value that takes one character after the other: anything but an array or an inline table. -/
def scalar (text : Text) : Except Fault (Value × Text) :=
  if text.head?.any fun c => c == '"' || c == '\'' then
    (required (string text)).map fun (body, rest) => (.string body, rest)
  else if "true".toList.isPrefixOf text then .ok (.bool true, text.drop 4)
  else if "false".toList.isPrefixOf text then .ok (.bool false, text.drop 5)
  else
    match Moment.read text with
    | some (some moment, rest) => .ok (.moment moment, rest)
    | some (none, _) => .error .malformed
    | none =>
      match Number.read text with
      | some (value, rest) => value.map fun v => (v, rest)
      | none => .error .malformed

/-! ## Nesting

An array takes two levels of what may be nested, an inline table three. There may be `most` levels in
all.
-/

def arrayLevels : Nat := 2

def tableLevels : Nat := 3

/-- The depth inside something at `depth` that takes some levels itself, if that is not beyond `most`. -/
def deeper (most levels depth : Nat) : Except Fault Nat :=
  if depth + levels ≤ most then .ok (depth + levels) else .error .tooDeep

mutual

/-- A value at a depth, with at most `fuel` nested or neighbouring items. -/
def itemWithin (most : Nat) : Nat → Nat → Text → Except Fault (Value × Text)
  | 0, _, _ => .error .malformed
  | fuel + 1, depth, text =>
    match text with
    | '[' :: rest => do
      let depth ← deeper most arrayLevels depth
      arrayWithin most fuel depth rest
    | '\x7b' :: rest => do
      let depth ← deeper most tableLevels depth
      match skipGap rest with
      | '\x7d' :: rest => return (.mapping [], rest)
      | rest => inlineWithin most fuel depth [] rest
    | _ => scalar text

/-- The rest of an array: a value and a comma, again and again, or the end. The last comma may stay
away. -/
def arrayWithin (most : Nat) : Nat → Nat → Text → Except Fault (Value × Text)
  | 0, _, _ => .error .malformed
  | fuel + 1, depth, text => do
    match ← required (skipBlankLines text) with
    | ']' :: rest => return (.list [], rest)
    | text =>
      let (value, rest) ← itemWithin most fuel depth text
      match ← required (skipBlankLines rest) with
      | ']' :: rest => return (.list [value], rest)
      | ',' :: rest =>
        let (more, rest) ← arrayWithin most fuel depth rest
        match more with
        | .list values => return (.list (value :: values), rest)
        | _ => throw .malformed
      | _ => throw .malformed

/-- The rest of an inline table, after the entries read so far. All of it stands on one line, and no
comma stands at its end. -/
def inlineWithin (most : Nat) : Nat → Nat → Table Node → Text → Except Fault (Value × Text)
  | 0, _, _, _ => .error .malformed
  | fuel + 1, depth, entries, text => do
    let (name, rest) ← required (key text)
    match rest with
    | '=' :: rest =>
      let (value, rest) ← itemWithin most fuel depth (skipGap rest)
      let entries ← required (Node.assign 0 value name entries)
      match skipGap rest with
      | '\x7d' :: rest => return (.mapping (Node.entryValues entries), rest)
      | ',' :: rest => inlineWithin most fuel depth entries (skipGap rest)
      | _ => throw .malformed
    | _ => throw .malformed

end

def item (most size : Nat) (text : Text) : Except Fault (Value × Text) :=
  -- Each character starts at most one item and one rest of an array or a table.
  itemWithin most (2 * size + 2) 0 text

end ScadAdvisor.Toml
