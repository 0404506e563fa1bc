import Mathlib.Tactic.Common
import ScadAdvisor.Proofs.Value.Merge
import ScadAdvisor.Toml.Document

/-! # Each table of a document has each key once

Entries are only ever put, so this holds of every tree, and of every value that is read.
-/

namespace ScadAdvisor.Toml

/-! ## Trees -/

namespace Node

@[simp] theorem entryValues_put (name : Text) (node : Node) (entries : Table Node) :
    entryValues (entries.put name node) = (entryValues entries).put name node.toValue := by
  induction entries with
  | nil => simp [Table.put, entryValues]
  | cons item rest ih =>
    obtain ⟨k, v⟩ := item
    by_cases hk : k = name <;> simp [Table.put, entryValues, hk, ih]

@[simp] theorem get?_entryValues (name : Text) (entries : Table Node) :
    (entryValues entries).get? name = (entries.get? name).map toValue := by
  induction entries with
  | nil => simp [Table.get?, entryValues]
  | cons item rest ih =>
    obtain ⟨k, v⟩ := item
    by_cases hk : k = name <;> simp [Table.get?, entryValues, hk, ih]

def IsWellFormed (entries : Table Node) : Prop := Value.entriesWellFormed (entryValues entries) = true

@[simp] theorem isWellFormed_nil : IsWellFormed [] := by
  unfold IsWellFormed
  rw [entryValues, Value.entriesWellFormed]

variable {entries entries' : Table Node} {name : Text} {path : List Text}

theorem IsWellFormed.put (h : IsWellFormed entries) {node : Node}
    (hnode : node.toValue.isWellFormed = true) : IsWellFormed (entries.put name node) := by
  unfold IsWellFormed
  rw [entryValues_put]
  exact Value.entriesWellFormed_put h name hnode

theorem IsWellFormed.put_table (h : IsWellFormed entries) (fixed : Option Nat)
    {below : Table Node} (hbelow : IsWellFormed below) :
    IsWellFormed (entries.put name (.table fixed below)) := by
  apply h.put
  rw [toValue, Value.isWellFormed]
  exact hbelow

theorem IsWellFormed.put_tables (h : IsWellFormed entries) (earlier : List (List (Text × Node)))
    (last : Table Node) : IsWellFormed (entries.put name (.tables earlier last)) := by
  apply h.put
  simp [toValue, Value.isWellFormed]

theorem IsWellFormed.below (h : IsWellFormed entries) {fixed : Option Nat}
    {below : Table Node} (hget : entries.get? name = some (.table fixed below)) : IsWellFormed below := by
  have hfield : Value.field? name (.mapping (entryValues entries)) =
      some (.mapping (entryValues below)) := by
    rw [Value.field?, get?_entryValues, hget, Option.map_some, toValue]
  have := Value.isWellFormed_field? (v := .mapping (entryValues entries)) h hfield
  rwa [Value.isWellFormed] at this

theorem IsWellFormed.inside {change : Table Node → Option (Table Node)}
    (hchange : ∀ before after, IsWellFormed before → change before = some after → IsWellFormed after)
    (h : IsWellFormed entries) (hinside : inside change path entries = some entries') :
    IsWellFormed entries' := by
  induction path generalizing entries entries' with
  | nil => exact hchange entries entries' h hinside
  | cons name rest ih =>
    unfold Node.inside at hinside
    split at hinside
    · obtain ⟨below, hbelow, ⟨⟩⟩ := Option.bind_eq_some_iff.mp hinside
      exact h.put_table none (ih isWellFormed_nil hbelow)
    · rename_i fixed below hget
      obtain ⟨below', hbelow, ⟨⟩⟩ := Option.bind_eq_some_iff.mp hinside
      exact h.put_table fixed (ih (h.below hget) hbelow)
    · rename_i earlier last hget
      obtain ⟨last', -, ⟨⟩⟩ := Option.bind_eq_some_iff.mp hinside
      exact h.put_tables earlier last'
    · cases hinside

theorem IsWellFormed.openTable (h : IsWellFormed entries) {current : Nat}
    (hopen : openTable current name entries = some entries') : IsWellFormed entries' := by
  unfold Node.openTable at hopen
  split at hopen
  · cases hopen
    exact h.put_table _ isWellFormed_nil
  · rename_i below hget
    cases hopen
    exact h.put_table _ (h.below hget)
  · cases hopen

theorem IsWellFormed.appendTable (h : IsWellFormed entries)
    (happend : appendTable name entries = some entries') : IsWellFormed entries' := by
  unfold Node.appendTable at happend
  split at happend
  · cases happend
    exact h.put_tables [] []
  · rename_i earlier last _
    cases happend
    exact h.put_tables (earlier ++ [last]) []
  · cases happend

theorem IsWellFormed.assign (h : IsWellFormed entries) {current : Nat} {value : Value}
    (hvalue : value.isWellFormed = true) (hassign : assign current value path entries = some entries') :
    IsWellFormed entries' := by
  induction path generalizing entries entries' with
  | nil => cases hassign
  | cons name rest ih =>
    cases rest with
    | nil =>
      simp only [Node.assign] at hassign
      split at hassign
      · cases hassign
      · cases hassign
        exact h.put (by rwa [toValue])
    | cons next rest =>
      simp only [Node.assign] at hassign
      split at hassign
      · obtain ⟨below, hbelow, ⟨⟩⟩ := Option.bind_eq_some_iff.mp hassign
        exact h.put_table _ (ih isWellFormed_nil hbelow)
      · rename_i fixed below hget
        split at hassign
        · obtain ⟨below', hbelow, ⟨⟩⟩ := Option.bind_eq_some_iff.mp hassign
          exact h.put_table _ (ih (h.below hget) hbelow)
        · cases hassign
      · cases hassign

end Node

/-! ## Values -/

/-- What is read, if there is no fault, has a property. -/
def Gives {α : Type} (P : α → Prop) (read : Except Fault α) : Prop := ∀ a, read = .ok a → P a

namespace Gives

variable {α β : Type} {P : α → Prop} {Q : β → Prop} {read : Except Fault α}

theorem ok {a : α} (h : P a) : Gives P (.ok a) := by
  rintro _ ⟨⟩
  exact h

theorem error (fault : Fault) : Gives P (.error fault) := by
  rintro _ ⟨⟩

theorem bind {next : α → Except Fault β} (h : ∀ a, read = .ok a → Gives Q (next a)) :
    Gives Q (read >>= next) := by
  intro b hb
  cases hread : read with
  | error fault => simp [hread, Bind.bind, Except.bind] at hb
  | ok a =>
    rw [hread] at hb
    exact h a hread b hb

theorem map {f : α → β} (h : Gives (fun a => Q (f a)) read) : Gives Q (read.map f) := by
  intro b hb
  cases read with
  | error fault => cases hb
  | ok a =>
    cases hb
    exact h a rfl

end Gives

@[simp] theorem required_eq_ok {α : Type} {x : Option α} {a : α} : required x = .ok a ↔ x = some a := by
  cases x <;> simp [required]

abbrev ReadsWellFormed (read : Except Fault (Value × Text)) : Prop :=
  Gives (fun r => r.1.isWellFormed = true) read

theorem Number.based_isWellFormed {text rest : Text} {value : Value}
    (h : Number.based text = some (value, rest)) : value.isWellFormed = true := by
  unfold Number.based at h
  split at h
  · obtain ⟨⟨base, p⟩, -, h⟩ := Option.bind_eq_some_iff.mp h
    obtain ⟨⟨ds, rest⟩, -, ⟨⟩⟩ := Option.bind_eq_some_iff.mp h
    simp [Value.isWellFormed]
  · cases h

theorem Number.decimal_isWellFormed {text rest : Text} {value : Value}
    (h : Number.decimal text = some (.ok value, rest)) : value.isWellFormed = true := by
  unfold Number.decimal at h
  obtain ⟨⟨head, behind⟩, -, h⟩ := Option.bind_eq_some_iff.mp h
  repeat' split at h
  all_goals cases h
  all_goals simp [Value.isWellFormed]

theorem Number.special_isWellFormed {text rest : Text} {value : Value}
    (h : Number.special text = some (value, rest)) : value.isWellFormed = true := by
  unfold Number.special at h
  simp only at h
  split at h
  · cases h
    simp [Value.isWellFormed]
  split at h
  · cases h
    simp [Value.isWellFormed]
  · cases h

theorem Number.read_isWellFormed {text rest : Text} {value : Value}
    (h : Number.read text = some (.ok value, rest)) : value.isWellFormed = true := by
  unfold Number.read at h
  split at h
  · rename_i hbased
    cases h
    exact Number.based_isWellFormed hbased
  split at h
  · rename_i hdecimal
    cases h
    exact Number.decimal_isWellFormed hdecimal
  · obtain ⟨⟨v, rest⟩, hspecial, ⟨⟩⟩ := Option.map_eq_some_iff.mp h
    exact Number.special_isWellFormed hspecial

theorem scalar_isWellFormed (text : Text) : ReadsWellFormed (scalar text) := by
  unfold scalar
  split
  · apply Gives.map
    rintro ⟨body, rest⟩ -
    simp [Value.isWellFormed]
  split
  · exact Gives.ok (by simp [Value.isWellFormed])
  split
  · exact Gives.ok (by simp [Value.isWellFormed])
  split
  · exact Gives.ok (by simp [Value.isWellFormed])
  · exact Gives.error _
  split
  · rename_i value rest hnumber
    apply Gives.map
    rintro v rfl
    exact Number.read_isWellFormed hnumber
  · exact Gives.error _

theorem arrayWithin_isWellFormed (most fuel depth : Nat) (text : Text) :
    ReadsWellFormed (arrayWithin most fuel depth text) := by
  have hlist : ∀ values : List Value, (Value.list values).isWellFormed = true := by
    simp [Value.isWellFormed]
  cases fuel with
  | zero =>
    rw [arrayWithin]
    exact Gives.error _
  | succ fuel =>
    rw [arrayWithin]
    apply Gives.bind
    intro start _
    split
    · exact Gives.ok (hlist _)
    apply Gives.bind
    rintro ⟨value, rest⟩ -
    apply Gives.bind
    intro next _
    split
    · exact Gives.ok (hlist _)
    · apply Gives.bind
      rintro ⟨more, rest⟩ -
      dsimp only
      split
      · exact Gives.ok (hlist _)
      · exact Gives.error _
    · exact Gives.error _

/-- An item may be an inline table, and an inline table has items; the fuel goes down at each turn. -/
theorem nested_isWellFormed (most fuel depth : Nat) :
    (∀ text, ReadsWellFormed (itemWithin most fuel depth text)) ∧
    ∀ entries text, Node.IsWellFormed entries → ReadsWellFormed (inlineWithin most fuel depth entries text) := by
  induction fuel generalizing depth with
  | zero =>
    refine ⟨fun text => ?_, fun entries text _ => ?_⟩
    · rw [itemWithin]
      exact Gives.error _
    · rw [inlineWithin]
      exact Gives.error _
  | succ fuel ih =>
    refine ⟨fun text => ?_, fun entries text hentries => ?_⟩
    · unfold itemWithin
      split
      · apply Gives.bind
        intro inner _
        exact arrayWithin_isWellFormed most fuel inner _
      · apply Gives.bind
        intro inner _
        split
        · exact Gives.ok (by simp [Value.isWellFormed, Value.entriesWellFormed])
        · exact (ih inner).2 [] _ Node.isWellFormed_nil
      · exact scalar_isWellFormed text
    · rw [inlineWithin]
      apply Gives.bind
      rintro ⟨name, rest⟩ -
      dsimp only
      split
      · apply Gives.bind
        rintro ⟨value, rest⟩ hvalue
        apply Gives.bind
        intro more hmore
        have hassigned : Node.IsWellFormed more :=
          hentries.assign ((ih depth).1 _ _ hvalue) (required_eq_ok.mp hmore)
        split
        · refine Gives.ok ?_
          rw [Value.isWellFormed]
          exact hassigned
        · exact (ih depth).2 more _ hassigned
        · exact Gives.error _
      · exact Gives.error _

/-! ## Documents -/

def Statement.IsWellFormed : Statement → Prop
  | .assign _ value => value.isWellFormed = true
  | _ => True

theorem Statement.header_isWellFormed (text : Text) :
    Gives (fun r => r.1.IsWellFormed) (Statement.header text) := by
  unfold Statement.header
  split
  · apply Gives.bind
    intro r _
    split
    · exact Gives.ok trivial
    · exact Gives.error _
  · apply Gives.bind
    intro r _
    split
    · exact Gives.ok trivial
    · exact Gives.error _

theorem Statement.assignment_isWellFormed (most size : Nat) (text : Text) :
    Gives (fun r => r.1.IsWellFormed) (Statement.assignment most size text) := by
  unfold Statement.assignment
  apply Gives.bind
  rintro ⟨name, rest⟩ -
  dsimp only
  split
  · apply Gives.bind
    rintro ⟨value, rest⟩ hvalue
    exact Gives.ok ((nested_isWellFormed _ _ _).1 _ _ hvalue)
  · exact Gives.error _

theorem Statement.read_isWellFormed (most size : Nat) (text : Text) :
    Gives (fun r => ∀ s ∈ r.1, s.IsWellFormed) (Statement.read most size text) := by
  unfold Statement.read
  split
  · exact Gives.ok (by simp)
  · apply Gives.map
    intro r hr
    simpa using Statement.header_isWellFormed _ r hr
  split
  · exact Gives.ok (by simp)
  · apply Gives.map
    intro r hr
    simpa using Statement.assignment_isWellFormed most size _ r hr

theorem Statement.readLines_isWellFormed (most fuel : Nat) (text : Text) :
    ∀ s ∈ (Statement.readLines most fuel text).1, s.IsWellFormed := by
  induction fuel generalizing text with
  | zero => simp [Statement.readLines]
  | succ fuel ih =>
    cases text with
    | nil => simp [Statement.readLines]
    | cons c cs =>
      simp only [Statement.readLines]
      split
      · simp
      rename_i statement rest hread
      have hstatement := Statement.read_isWellFormed _ _ _ _ hread
      split
      · simpa using hstatement
      · intro s hs
        rcases List.mem_append.mp hs with hs | hs
        · exact hstatement s (by simpa using hs)
        · exact ih _ s hs

theorem Document.apply_isWellFormed {document document' : Document} {statement : Statement}
    (hstatement : statement.IsWellFormed) (h : Node.IsWellFormed document.entries)
    (happly : document.apply statement = some document') : Node.IsWellFormed document'.entries := by
  cases statement with
  | assign key value =>
    obtain ⟨entries, hentries, ⟨⟩⟩ := Option.bind_eq_some_iff.mp happly
    exact h.inside (fun _ _ hbefore => hbefore.assign hstatement) hentries
  | table key =>
    obtain ⟨name, -, happly⟩ := Option.bind_eq_some_iff.mp happly
    obtain ⟨entries, hentries, ⟨⟩⟩ := Option.bind_eq_some_iff.mp happly
    exact h.inside (fun _ _ hbefore => hbefore.openTable) hentries
  | tables key =>
    obtain ⟨name, -, happly⟩ := Option.bind_eq_some_iff.mp happly
    obtain ⟨entries, hentries, ⟨⟩⟩ := Option.bind_eq_some_iff.mp happly
    exact h.inside (fun _ _ hbefore => hbefore.appendTable) hentries

theorem Document.run_isWellFormed {document document' : Document} {statements : List Statement}
    (hstatements : ∀ s ∈ statements, s.IsWellFormed) (h : Node.IsWellFormed document.entries)
    (hrun : statements.foldlM Document.apply document = some document') :
    Node.IsWellFormed document'.entries := by
  induction statements generalizing document with
  | nil =>
    cases hrun
    exact h
  | cons statement rest ih =>
    rw [List.foldlM_cons] at hrun
    obtain ⟨next, hnext, hrun⟩ := Option.bind_eq_some_iff.mp hrun
    refine ih (fun s hs => hstatements s (List.mem_cons_of_mem _ hs)) ?_ hrun
    exact Document.apply_isWellFormed (hstatements statement List.mem_cons_self) h hnext

theorem parse_isWellFormed (most : Nat) (text : Text) :
    Gives (fun table => Value.entriesWellFormed table = true) (parse most text) := by
  unfold parse
  dsimp only
  apply Gives.bind
  intro document hdocument
  split
  · exact Gives.error _
  · refine Gives.ok ?_
    exact Document.run_isWellFormed (Statement.readLines_isWellFormed _ _ _) Node.isWellFormed_nil
      (required_eq_ok.mp hdocument)

end ScadAdvisor.Toml
