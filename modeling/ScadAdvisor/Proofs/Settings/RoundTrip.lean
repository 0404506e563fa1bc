import Mathlib.Tactic.Common
import ScadAdvisor.Proofs.Lowercase
import ScadAdvisor.Proofs.Settings.Faults

/-! # Settings that are written are read back

What the checks let through is in a form that they leave as it is. So the defaults, which are written
and read again with every other source, come out unchanged.
-/

namespace ScadAdvisor

/-! ## Extensions in normal form -/

/-- A point in front and not only points, no blanks around it and nothing in upper case. -/
structure IsNormalExtension (key : Text) : Prop where
  head : key.head? = some '.'
  notPoints : ∃ c ∈ key, c ≠ '.'
  stripped : Text.strip key = key
  lowered : Text.lower key = key

theorem normalExtension?_isNormal {extension key : Text} (h : normalExtension? extension = some key) :
    IsNormalExtension key := by
  have hstripped := (Text.isStripped_strip extension).lower
  have hlow : ∀ c ∈ Text.lower (Text.strip extension), Text.IsLow c :=
    fun c => Text.isLow_of_mem_lowerFrom [] (Text.strip extension)
  unfold normalExtension? at h
  dsimp only at h
  generalize Text.lower (Text.strip extension) = low at h hstripped hlow
  split at h
  · cases h
  rename_i hpoints
  have hnot : ∃ c ∈ low, c ≠ '.' := by simpa using hpoints
  split at h
  · rename_i hhead
    cases h
    exact ⟨by simpa using hhead, hnot, hstripped.strip_eq, (Text.lower_eq_self_iff _).mpr hlow⟩
  · cases h
    obtain ⟨c, hc, hne⟩ := hnot
    have hpoint : Text.IsLow '.' ∧ Text.isBlank '.' = false := ⟨⟨by decide, by decide⟩, by decide⟩
    refine ⟨rfl, ⟨c, List.mem_cons_of_mem _ hc, hne⟩, ?_, ?_⟩
    · apply Text.IsStripped.strip_eq
      refine ⟨?_, ?_⟩
      · rintro _ ⟨⟩
        exact hpoint.2
      · intro d hd
        rw [List.getLast?_cons_of_ne_nil (List.ne_nil_of_mem hc)] at hd
        exact hstripped.last d hd
    · rw [Text.lower_eq_self_iff]
      intro d hd
      rcases List.mem_cons.mp hd with rfl | hd
      · exact hpoint.1
      · exact hlow d hd

theorem IsNormalExtension.normalExtension?_eq {key : Text} (h : IsNormalExtension key) :
    normalExtension? key = some key := by
  obtain ⟨c, hc, hne⟩ := h.notPoints
  have hpoints : ¬ key.all (· == '.') = true := by
    simpa using ⟨c, hc, hne⟩
  simp [normalExtension?, h.stripped, h.lowered, h.head, hpoints]

structure IsNormalTable (extensions : Table Text) : Prop where
  nodup : extensions.keys.Nodup
  normal : ∀ key ∈ extensions.keys, IsNormalExtension key

theorem IsNormalTable.put {extensions : Table Text} (h : IsNormalTable extensions) {key : Text}
    (hkey : IsNormalExtension key) (message : Text) : IsNormalTable (extensions.put key message) := by
  refine ⟨Table.nodup_keys_put h.nodup key message, ?_⟩
  intro other hother
  rw [Table.keys_put] at hother
  split at hother
  · exact h.normal other hother
  · rcases List.mem_append.mp hother with hother | hother
    · exact h.normal other hother
    · obtain rfl := List.mem_singleton.mp hother
      exact hkey

theorem normalExtensionsFrom_isNormal {done texts normal : Table Text} (hdone : IsNormalTable done)
    (h : normalExtensionsFrom done texts = some normal) : IsNormalTable normal := by
  induction texts generalizing done with
  | nil =>
    cases h
    exact hdone
  | cons item rest ih =>
    rw [normalExtensionsFrom] at h
    split at h
    · cases h
    · rename_i key hkey
      exact ih (hdone.put (normalExtension?_isNormal hkey) _) h

theorem normalExtensionsFrom_eq {done texts : Table Text} (h : IsNormalTable (done ++ texts)) :
    normalExtensionsFrom done texts = some (done ++ texts) := by
  induction texts generalizing done with
  | nil => simp [normalExtensionsFrom]
  | cons item rest ih =>
    obtain ⟨key, message⟩ := item
    have hkey := h.normal key (by simp [Table.keys])
    have hnew : key ∉ done.keys := by
      intro hmem
      have hnodup := h.nodup
      simp only [Table.keys, List.map_append, List.map_cons, List.nodup_append] at hnodup hmem
      exact hnodup.2.2 key hmem key List.mem_cons_self rfl
    rw [normalExtensionsFrom, hkey.normalExtension?_eq]
    dsimp only
    rw [Table.put_of_not_mem key message done hnew, ih (by simpa using h)]
    simp

theorem checkExtensions_isNormal {extensions normal : Table Text}
    (h : checkExtensions extensions = .ok normal) : IsNormalTable normal := by
  unfold checkExtensions at h
  split at h
  · rename_i hfrom
    cases h
    exact normalExtensionsFrom_isNormal ⟨by simp [Table.keys], by simp [Table.keys]⟩ hfrom
  · cases h

theorem IsNormalTable.checkExtensions_eq {extensions : Table Text} (h : IsNormalTable extensions) :
    checkExtensions extensions = .ok extensions := by
  have hnil : IsNormalTable ([] ++ extensions) := h
  unfold checkExtensions
  rw [normalExtensionsFrom_eq hnil]
  rfl

/-! ## Reading what was written -/

theorem checkParameters_of_namesIdentifiers {renames : Table Text} (h : NamesIdentifiers renames) :
    checkParameters renames = .ok renames := by
  unfold checkParameters
  rw [List.find?_eq_none.mpr fun rename hmem => by simp [h rename hmem]]

namespace Read

@[simp] theorem table_tableValue (texts : Table Text) : table (tableValue texts) = .ok texts := by
  induction texts with
  | nil => rfl
  | cons item rest ih =>
    simp only [tableValue, table, List.map_cons, Checked.all] at ih ⊢
    rw [ih]
    rfl

@[simp] theorem stringsFrom_map (n : Nat) (texts : List Text) :
    Checked.all (stringsFrom n (texts.map .string)) = .ok texts := by
  induction texts generalizing n with
  | nil => rfl
  | cons text rest ih =>
    simp only [List.map_cons, stringsFrom, Checked.all, ih]
    rfl

theorem optional_eq_of_get? {α : Type} {fields : Table Value} {name : Text} {v : Value}
    (hget : fields.get? name = some v) {a : α} {read : Value → Checked α} (hread : read v = .ok a)
    (default : α) : optional fields name default read = .ok a := by
  unfold optional
  rw [hget]
  dsimp only
  rw [hread]
  rfl

@[simp] theorem bool_bool (b : Bool) : Read.bool (.bool b) = .ok b := rfl

@[simp] theorem format_name (f : OutputFormat) : format (.string f.name) = .ok f := by
  cases f <;> rfl

end Read

theorem ScanSettings.read_toValue {s : ScanSettings} (hparameters : NamesIdentifiers s.parameters)
    (hextensions : IsNormalTable s.extensions) : ScanSettings.read s.toValue = .ok s := by
  have hp : Read.parameters (tableValue s.parameters) = .ok s.parameters := by
    rw [Read.parameters, Read.table_tableValue]
    exact checkParameters_of_namesIdentifiers hparameters
  have he : Read.extensions (tableValue s.extensions) = .ok s.extensions := by
    rw [Read.extensions, Read.table_tableValue]
    exact hextensions.checkExtensions_eq
  have hi : Read.strings (.list (s.includes.map .string)) = .ok s.includes :=
    Read.stringsFrom_map 0 s.includes
  unfold ScanSettings.read ScanSettings.toValue Read.entries
  dsimp only [bind, Except.bind]
  rw [Read.optional_eq_of_get? rfl (Read.bool_bool s.deprecations),
    Read.optional_eq_of_get? rfl (Read.bool_bool s.reassignments),
    Read.optional_eq_of_get? rfl hp,
    Read.optional_eq_of_get? rfl he,
    Read.optional_eq_of_get? rfl hi]
  rfl

@[simp] theorem OutputSettings.read_toValue (s : OutputSettings) : OutputSettings.read s.toValue = .ok s := by
  unfold OutputSettings.read OutputSettings.toValue Read.entries
  dsimp only [bind, Except.bind]
  rw [Read.optional_eq_of_get? rfl (Read.bool_bool s.color),
    Read.optional_eq_of_get? rfl (Read.bool_bool s.emoji),
    Read.optional_eq_of_get? rfl (Read.format_name s.format)]
  rfl

theorem Settings.read_toValue {s : Settings} (hscan : ScanSettings.read s.scan.toValue = .ok s.scan) :
    Settings.read s.toValue = .ok s := by
  unfold Settings.read Settings.toValue Settings.toTable Read.entries
  dsimp only [bind, Except.bind]
  rw [Read.optional_eq_of_get? rfl hscan,
    Read.optional_eq_of_get? rfl s.output.read_toValue]
  rfl

/-! ## Settings that went through the checks -/

/-- Settings that were read from a value, loaded from sources or for a project, or had a single field
set after that. -/
inductive Settings.Validated : Settings → Prop where
  | read (v : Value) (s : Settings) (h : Settings.read v = .ok s) : Validated s
  | ofSources (tree : FileTree) (sources : List SettingsSource) (s : Settings)
      (h : (Settings.ofSources tree sources).2 = .ok s) : Validated s
  | load (tree : FileTree) (directory : Path) (asked : Option Path) (s : Settings)
      (h : (Settings.load tree directory asked).2 = .ok s) : Validated s
  | assign (s t : Settings) (place : Section) (field : Text) (v : Value) (hs : Validated s)
      (h : s.assign place field v = .ok t) : Validated t

theorem ScanSettings.validated_default : ScanSettings.Validated {} := .read (.mapping []) {} rfl

theorem Settings.validated_scan_of_read {v : Value} {s : Settings} (h : Settings.read v = .ok s) :
    s.scan.Validated := by
  unfold Settings.read at h
  obtain ⟨fields, -, h⟩ := (Outcome.bind_eq_ok _ _ _).mp h
  obtain ⟨⟨scan, output⟩, hfields, h⟩ := (Outcome.bind_eq_ok _ _ _).mp h
  rw [Checked.both_eq_ok] at hfields
  cases h
  rcases Read.optional_eq_ok _ _ _ _ _ hfields.1 with rfl | ⟨w, hw⟩
  · exact ScanSettings.validated_default
  · exact .read w scan hw

theorem Settings.validated_scan_of_ofSources {tree : FileTree} {sources : List SettingsSource}
    {s : Settings} (h : (Settings.ofSources tree sources).2 = .ok s) : s.scan.Validated := by
  obtain ⟨fragments, hfragments⟩ := Settings.ofSources_fragments h
  exact Settings.validated_scan_of_read (Settings.ofSources_eq_ok hfragments h)

theorem Settings.validated_scan_of_assign {s t : Settings} {place : Section} {field : Text} {v : Value}
    (h : s.assign place field v = .ok t) (hs : s.scan.Validated) : t.scan.Validated := by
  cases place with
  | scan =>
    obtain ⟨scan, hset, rfl⟩ := (Outcome.map_eq_ok _ _ _).mp h
    exact .set s.scan scan field v hs hset
  | output =>
    obtain ⟨output, -, rfl⟩ := (Outcome.map_eq_ok _ _ _).mp h
    exact hs
  | whole =>
    rcases setField_eq_ok _ _ _ _ _ _ h with rfl | ⟨setter, hmem, hset⟩
    · exact hs
    · simp only [Settings.setters, List.mem_cons, List.not_mem_nil, or_false] at hmem
      rcases hmem with rfl | rfl
      all_goals obtain ⟨a, ha, rfl⟩ := (Outcome.map_eq_ok _ _ _).mp hset
      · exact .read v a ha
      · exact hs

theorem Settings.Validated.scan {s : Settings} (h : s.Validated) : s.scan.Validated := by
  induction h with
  | read v s h => exact Settings.validated_scan_of_read h
  | ofSources tree sources s h => exact Settings.validated_scan_of_ofSources h
  | load tree directory asked s h =>
    unfold Settings.load at h
    split at h
    · cases h
    · exact Settings.validated_scan_of_ofSources h
  | assign s t place field v _ h ih => exact Settings.validated_scan_of_assign h ih

theorem ScanSettings.Validated.isNormalTable {s : ScanSettings} (h : s.Validated) :
    IsNormalTable s.extensions := by
  rcases h.tables.extensions with hdefault | ⟨v, hread⟩
  · have hcheck : checkExtensions ({} : ScanSettings).extensions = .ok ({} : ScanSettings).extensions :=
      rfl
    rw [hdefault]
    exact checkExtensions_isNormal hcheck
  · obtain ⟨texts, -, hchecked⟩ := (Outcome.bind_eq_ok _ _ _).mp hread
    exact checkExtensions_isNormal hchecked

/-- Settings that went through the checks are read back from what they are written as, with both tables
in their order. The check of extensions gives a table in normal form, which it leaves as it is. -/
theorem settings_round_trip :
    (∀ s : Settings, s.Validated → Settings.read s.toValue = .ok s ∧ IsNormalTable s.scan.extensions) ∧
      ∀ extensions normal : Table Text, checkExtensions extensions = .ok normal →
        IsNormalTable normal ∧ checkExtensions normal = .ok normal := by
  refine ⟨?_, ?_⟩
  · intro s h
    have hnormal := h.scan.isNormalTable
    exact ⟨Settings.read_toValue (ScanSettings.read_toValue h.scan.parameters hnormal), hnormal⟩
  · intro extensions normal h
    have hnormal := checkExtensions_isNormal h
    exact ⟨hnormal, hnormal.checkExtensions_eq⟩

/-- Two spellings of one extension, one of them with blanks around it, and a word that ends with a
sigma. -/
theorem settings_round_trip_of_spellings :
    let scan : ScanSettings :=
      { extensions := [(".step".toList, "newer".toList), (".οδος".toList, "street".toList)],
        parameters := [("b".toList, "c".toList), ("a".toList, "b".toList)] }
    let given : Value := .mapping [(Field.scan, .mapping
      [(Field.extensions, .mapping [(" .STEP\t".toList, .string "older".toList),
        ("ΟΔΟΣ".toList, .string "street".toList), ("Step".toList, .string "newer".toList)]),
       (Field.parameters, tableValue scan.parameters)])]
    Settings.read given = .ok { scan } ∧
      Settings.read ({ scan } : Settings).toValue = .ok { scan } ∧ IsNormalTable scan.extensions := by
  intro scan given
  have hread : Settings.read given = .ok { scan } := Outcome.eq_ok_of_toOption (by decide +kernel)
  exact ⟨hread, settings_round_trip.1 { scan } (.read given { scan } hread)⟩

end ScadAdvisor
