import Mathlib.Tactic.Common
import ScadAdvisor.Proofs.Identifier
import ScadAdvisor.Proofs.Outcome
import ScadAdvisor.Proofs.Table
import ScadAdvisor.Settings.Validation

/-! # What holds of settings that were checked -/

namespace ScadAdvisor

/-! ## Checks that pass -/

namespace Checked

@[simp] theorem under_eq_ok {α : Type} (step : PathStep) (x : Checked α) (a : α) :
    x.under step = .ok a ↔ x = .ok a := by
  cases x <;> simp [under]

@[simp] theorem both_eq_ok {α β : Type} (x : Checked α) (y : Checked β) (a : α) (b : β) :
    both x y = .ok (a, b) ↔ x = .ok a ∧ y = .ok b := by
  cases x <;> cases y <;> simp [both]

end Checked

theorem Read.optional_eq_ok {α : Type} (fields : Table Value) (name : Text) (default a : α)
    (read : Value → Checked α) (h : Read.optional fields name default read = .ok a) :
    a = default ∨ ∃ v, read v = .ok a := by
  unfold Read.optional at h
  split at h
  · rename_i v _
    exact Or.inr ⟨v, (Checked.under_eq_ok _ _ _).mp h⟩
  · cases h
    exact Or.inl rfl

theorem setField_eq_ok {α : Type} (recordName : Text) (setters : List (FieldSetter α)) (record : α)
    (field : Text) (v : Value) (result : α)
    (h : setField recordName setters record field v = .ok result) :
    result = record ∨ ∃ setter ∈ setters, setter.set record v = .ok result := by
  unfold setField at h
  split at h
  · rename_i setter hfind
    refine Or.inr ⟨setter, List.mem_of_find?_eq_some hfind, ?_⟩
    rw [Assign.checked] at h
    cases hset : setter.set record v <;> simp_all [Checked.under, Except.mapError]
  · left
    split at h
    · cases hset : Assign.setPrivate recordName field v <;> simp_all [Except.map]
    · split at h
      · cases h
      · simp [Assign.checked, Checked.fail, Checked.under, Except.mapError] at h

/-! ## Parameter tables -/

def NamesIdentifiers (renames : Table Text) : Prop :=
  ∀ rename ∈ renames, isIdentifier rename.1 = true ∧ isIdentifier rename.2 = true

theorem checkParameters_eq_ok (renames checked : Table Text)
    (h : checkParameters renames = .ok checked) : NamesIdentifiers checked := by
  unfold checkParameters at h
  split at h
  · rename_i hnone
    cases h
    intro rename hmem
    simpa using List.find?_eq_none.mp hnone rename hmem
  · cases h

theorem readParameters_eq_ok (v : Value) (checked : Table Text)
    (h : Read.parameters v = .ok checked) : NamesIdentifiers checked := by
  obtain ⟨renames, -, h⟩ := (Outcome.bind_eq_ok _ _ _).mp h
  exact checkParameters_eq_ok renames checked h

theorem default_namesIdentifiers : NamesIdentifiers ({} : ScanSettings).parameters := by
  unfold NamesIdentifiers
  decide +kernel

/-! ## Scan settings -/

/-- Settings that went through the checks: they were read from a value, and single fields may have
been set after that. -/
inductive ScanSettings.Validated : ScanSettings → Prop where
  | read (v : Value) (s : ScanSettings) (h : ScanSettings.read v = .ok s) : Validated s
  | set (s t : ScanSettings) (field : Text) (v : Value) (hs : Validated s)
      (h : setField ScanSettings.recordName ScanSettings.setters s field v = .ok t) : Validated t

/-- Both tables are those that hold by themselves, or went through their checks. -/
structure ScanSettings.TablesChecked (s : ScanSettings) : Prop where
  parameters : s.parameters = ({} : ScanSettings).parameters ∨ ∃ v, Read.parameters v = .ok s.parameters
  extensions : s.extensions = ({} : ScanSettings).extensions ∨ ∃ v, Read.extensions v = .ok s.extensions

theorem ScanSettings.read_tables (v : Value) (s : ScanSettings) (h : ScanSettings.read v = .ok s) :
    s.TablesChecked := by
  unfold ScanSettings.read at h
  obtain ⟨fields, -, h⟩ := (Outcome.bind_eq_ok _ _ _).mp h
  obtain ⟨⟨deprecations, reassignments, parameters, extensions, includes⟩, hfields, h⟩ :=
    (Outcome.bind_eq_ok _ _ _).mp h
  simp only [Checked.both_eq_ok] at hfields
  cases h
  exact ⟨Read.optional_eq_ok _ _ _ _ _ hfields.2.2.1, Read.optional_eq_ok _ _ _ _ _ hfields.2.2.2.1⟩

theorem ScanSettings.set_tables (s t : ScanSettings) (field : Text) (v : Value)
    (h : setField ScanSettings.recordName ScanSettings.setters s field v = .ok t)
    (hs : s.TablesChecked) : t.TablesChecked := by
  rcases setField_eq_ok _ _ _ _ _ _ h with rfl | ⟨setter, hmem, hset⟩
  · exact hs
  · simp only [ScanSettings.setters, List.mem_cons, List.not_mem_nil, or_false] at hmem
    rcases hmem with rfl | rfl | rfl | rfl | rfl
    all_goals obtain ⟨a, ha, rfl⟩ := (Outcome.map_eq_ok _ _ _).mp hset
    · exact ⟨hs.parameters, hs.extensions⟩
    · exact ⟨hs.parameters, hs.extensions⟩
    · exact ⟨Or.inr ⟨v, ha⟩, hs.extensions⟩
    · exact ⟨hs.parameters, Or.inr ⟨v, ha⟩⟩
    · exact ⟨hs.parameters, hs.extensions⟩

theorem ScanSettings.Validated.tables {s : ScanSettings} (h : s.Validated) : s.TablesChecked := by
  induction h with
  | read v s h => exact ScanSettings.read_tables v s h
  | set s t field v _ h ih => exact ScanSettings.set_tables s t field v h ih

theorem ScanSettings.Validated.parameters {s : ScanSettings} (h : s.Validated) :
    NamesIdentifiers s.parameters := by
  rcases h.tables.parameters with hdefault | ⟨v, hread⟩
  · rw [hdefault]
    exact default_namesIdentifiers
  · exact readParameters_eq_ok v _ hread

/-! ## Extension tables -/

def StartsWithDot (extensions : Table Text) : Prop :=
  ∀ entry ∈ extensions, entry.1.head? = some '.'

theorem normalExtension?_head (extension key : Text) (h : normalExtension? extension = some key) :
    key.head? = some '.' := by
  unfold normalExtension? at h
  dsimp only at h
  split at h
  · cases h
  · split at h
    · rename_i hhead
      cases h
      exact eq_of_beq hhead
    · cases h
      rfl

theorem normalExtensionsFrom_startsWithDot (done texts normal : Table Text)
    (h : normalExtensionsFrom done texts = some normal) (hdone : StartsWithDot done) :
    StartsWithDot normal := by
  induction texts generalizing done with
  | nil =>
    cases h
    exact hdone
  | cons item rest ih =>
    obtain ⟨extension, message⟩ := item
    rw [normalExtensionsFrom] at h
    split at h
    · cases h
    · rename_i key hkey
      apply ih _ h
      intro entry hentry
      rcases Table.mem_put hentry with rfl | hentry
      · exact normalExtension?_head extension key hkey
      · exact hdone entry hentry

theorem readExtensions_startsWithDot (v : Value) (checked : Table Text)
    (h : Read.extensions v = .ok checked) : StartsWithDot checked := by
  obtain ⟨texts, -, h⟩ := (Outcome.bind_eq_ok _ _ _).mp h
  unfold checkExtensions at h
  split at h
  · rename_i normal hnormal
    cases h
    exact normalExtensionsFrom_startsWithDot [] texts _ hnormal (by simp [StartsWithDot])
  · cases h

theorem ScanSettings.Validated.extensions {s : ScanSettings} (h : s.Validated) :
    StartsWithDot s.extensions := by
  rcases h.tables.extensions with hdefault | ⟨v, hread⟩
  · rw [hdefault]
    simp [StartsWithDot]
  · exact readExtensions_startsWithDot v _ hread

end ScadAdvisor
