import ScadAdvisor.Proofs.Settings.Extensions

/-! # Faults on the way to settings

Most of what can be wrong with a document is reported as such. Two things are not: bytes that are no
text, and a name that is too long to be looked up.
-/

namespace ScadAdvisor

/-- A limit of the machine was met: how long a number may be, or how deep values may lie. -/
def SettingsFault.isLimit : SettingsFault → Bool
  | .longNumber _ | .tooDeep | .overlapTooDeep => true
  | .noSources | .notFound _ | .inaccessible _ _ | .unreadable _ _ | .undecodable _ | .malformed _
  | .invalid _ => false

/-- A fault that is neither reported nor a limit. -/
def SettingsFault.isStray (fault : SettingsFault) : Bool := !fault.isReported && !fault.isLimit

inductive StrayIn (tree : FileTree) (path : Path) : SettingsFault → Prop where
  | overlong (h : tree.pathExists path = .error .nameTooLong) :
      StrayIn tree path (.inaccessible path .nameTooLong)
  | garbled (bytes : List UInt8) (fault : Utf8Fault) (hexists : tree.pathExists path = .ok true)
      (hread : tree.read path = .ok bytes) (hdecode : Utf8.decode bytes = .error fault) :
      StrayIn tree path (.undecodable fault)

/-! ## One document -/

theorem FileTree.find_eq_error {tree : FileTree} {path : Path} {fault : FileFault}
    (h : tree.find path = .error fault) : fault = .nameTooLong := by
  unfold find at h
  split at h
  · cases h
  · split at h
    · cases h
    · cases h
      rfl
    · cases h

theorem FileTree.map_find_eq_error {α : Type} {tree : FileTree} {path : Path} {f : Option FileNode → α}
    {fault : FileFault} (h : (tree.find path).map f = .error fault) : fault = .nameTooLong := by
  cases hfind : tree.find path with
  | ok => simp [hfind, Except.map] at h
  | error other =>
    rw [hfind] at h
    cases h
    exact find_eq_error hfind

namespace SettingsSource

theorem readDocument_stray_iff (tree : FileTree) (path : Path) (fault : SettingsFault) :
    readDocument tree path = .error fault ∧ fault.isStray = true ↔ StrayIn tree path fault := by
  constructor
  · rintro ⟨h, hstray⟩
    unfold readDocument at h
    split at h
    · rename_i reason hexists
      cases h
      obtain rfl := FileTree.map_find_eq_error hexists
      exact .overlong hexists
    · cases h
    rename_i hexists
    split at h
    · cases h
      cases hstray
    rename_i bytes hread
    split at h
    · rename_i reason hdecode
      cases h
      exact .garbled bytes reason hexists hread hdecode
    -- What the parser has against a text is reported, or is a limit.
    split at h <;> cases h <;> cases hstray
  · rintro (hexists | ⟨bytes, reason, hexists, hread, hdecode⟩)
    · simp [readDocument, hexists, SettingsFault.isStray, SettingsFault.isReported, SettingsFault.isLimit]
    · simp [readDocument, hexists, hread, hdecode, SettingsFault.isStray, SettingsFault.isReported,
        SettingsFault.isLimit]

def path? : SettingsSource → Option Path
  | .defaults => none
  | .document path _ | .project path _ => some path

theorem fragment_eq_error_iff (tree : FileTree) (source : SettingsSource) (fault : SettingsFault) :
    source.fragment tree = .error fault ↔
      ∃ path, source.path? = some path ∧ readDocument tree path = .error fault := by
  cases source with
  | defaults => simp [fragment, path?]
  | document path name => simp [fragment, path?]
  | project path name =>
    cases h : readDocument tree path <;> simp [fragment, path?, h, Except.map]

/-! ## All of them -/

theorem gather_cons (tree : FileTree) (merged : Table Value) (source : SettingsSource)
    (rest : List SettingsSource) :
    (gather tree merged (source :: rest)).2 = (source.fragment tree).bind fun fragment =>
      if Value.overlapsTooDeep tree.limits.overlap merged fragment then .error .overlapTooDeep
      else (gather tree (Value.merge merged fragment) rest).2 := by
  cases h : source.fragment tree with
  | error fault => simp [gather, h, Except.bind]
  | ok fragment =>
    simp only [gather, h, Except.bind]
    split <;> rfl

theorem gather_append (tree : FileTree) (merged : Table Value) (before after : List SettingsSource) :
    (gather tree merged (before ++ after)).2 =
      (gather tree merged before).2.bind fun below => (gather tree below after).2 := by
  induction before generalizing merged with
  | nil => rfl
  | cons source before ih =>
    rw [List.cons_append, gather_cons, gather_cons]
    cases source.fragment tree with
    | error fault => rfl
    | ok fragment =>
      simp only [Except.bind]
      split
      · rfl
      · exact ih _

theorem gather_stray_iff (tree : FileTree) (merged : Table Value) (sources : List SettingsSource)
    (fault : SettingsFault) :
    (gather tree merged sources).2 = .error fault ∧ fault.isStray = true ↔
      ∃ before source after below path, sources = before ++ source :: after ∧
        (gather tree merged before).2 = .ok below ∧ source.path? = some path ∧
        StrayIn tree path fault := by
  constructor
  · rintro ⟨h, hstray⟩
    induction sources generalizing merged with
    | nil => cases h
    | cons first rest ih =>
      rw [gather_cons] at h
      cases hfragment : first.fragment tree with
      | error other =>
        rw [hfragment] at h
        cases h
        obtain ⟨path, hpath, hread⟩ := (fragment_eq_error_iff tree first fault).mp hfragment
        exact ⟨[], first, rest, merged, path, rfl, rfl, hpath,
          (readDocument_stray_iff tree path fault).mp ⟨hread, hstray⟩⟩
      | ok fragment =>
        simp only [hfragment, Except.bind] at h
        split at h
        · cases h
          cases hstray
        · rename_i hoverlap
          obtain ⟨before, source, after, below, path, rfl, hbefore, hpath, hin⟩ := ih _ h
          refine ⟨first :: before, source, after, below, path, rfl, ?_, hpath, hin⟩
          rw [gather_cons, hfragment, Except.bind, if_neg hoverlap, hbefore]
  · rintro ⟨before, source, after, below, path, rfl, hbefore, hpath, hin⟩
    obtain ⟨hread, hstray⟩ := (readDocument_stray_iff tree path fault).mpr hin
    have hfragment := (fragment_eq_error_iff tree source fault).mpr ⟨path, hpath, hread⟩
    rw [gather_append, hbefore, Except.bind, gather_cons, hfragment]
    exact ⟨rfl, hstray⟩

theorem fragments_of_gather {tree : FileTree} {merged table : Table Value}
    {sources : List SettingsSource} (h : (gather tree merged sources).2 = .ok table) :
    ∃ fragments : List (Table Value), sources.map (·.fragment tree) = fragments.map .ok := by
  induction sources generalizing merged with
  | nil => exact ⟨[], rfl⟩
  | cons source rest ih =>
    rw [gather_cons] at h
    cases hfragment : source.fragment tree with
    | error fault =>
      rw [hfragment] at h
      cases h
    | ok fragment =>
      simp only [hfragment, Except.bind] at h
      split at h
      · cases h
      · obtain ⟨fragments, hrest⟩ := ih h
        exact ⟨fragment :: fragments, by simp [hfragment, hrest]⟩

end SettingsSource

/-! ## Settings -/

namespace Settings

theorem ofSources_stray_iff (tree : FileTree) (sources : List SettingsSource) (hne : sources ≠ [])
    (fault : SettingsFault) :
    (ofSources tree sources).2 = .error fault ∧ fault.isStray = true ↔
      (SettingsSource.gather tree [] sources).2 = .error fault ∧ fault.isStray = true := by
  unfold ofSources
  rw [if_neg (by simpa using hne)]
  dsimp only
  cases (SettingsSource.gather tree [] sources).2 with
  | error other => simp
  | ok table =>
    dsimp only
    cases Settings.read (.mapping table) with
    | ok settings => simp
    | error problems =>
      -- What is wrong with the values is reported.
      constructor
      · rintro ⟨h, hstray⟩
        cases h
        cases hstray
      · rintro ⟨h, -⟩
        cases h

theorem ofSources_fragments {tree : FileTree} {sources : List SettingsSource} {settings : Settings}
    (h : (ofSources tree sources).2 = .ok settings) :
    ∃ fragments : List (Table Value), sources.map (·.fragment tree) = fragments.map .ok := by
  unfold ofSources at h
  split at h
  · cases h
  dsimp only at h
  split at h
  · cases h
  · rename_i table hgather
    exact SettingsSource.fragments_of_gather hgather

end Settings

theorem SettingsSource.forProject_ne_nil {tree : FileTree} {directory : Path} {asked : Option Path}
    {sources : List SettingsSource} (h : forProject tree directory asked = .ok sources) :
    sources ≠ [] := by
  unfold forProject at h
  split at h
  · cases h
    simp
  · split at h
    · cases h
    · cases h
      simp
    · cases h

theorem SettingsSource.forProject_stray_iff (tree : FileTree) (directory : Path) (asked : Option Path)
    (fault : SettingsFault) :
    forProject tree directory asked = .error fault ∧ fault.isStray = true ↔
      ∃ path, asked = some path ∧ tree.isFile path = .error .nameTooLong ∧
        fault = .inaccessible path .nameTooLong := by
  cases asked with
  | none => simp [forProject]
  | some path =>
    unfold forProject
    dsimp only
    cases hfile : tree.isFile path with
    | error reason =>
      obtain rfl := FileTree.map_find_eq_error hfile
      constructor
      · rintro ⟨⟨⟩, -⟩
        exact ⟨path, rfl, hfile, rfl⟩
      · rintro ⟨_, ⟨⟩, -, rfl⟩
        exact ⟨rfl, rfl⟩
    | ok found =>
      constructor
      · rintro ⟨h, hstray⟩
        cases found with
        | true => cases h
        | false =>
          cases h
          cases hstray
      · rintro ⟨_, ⟨⟩, h, -⟩
        simp [hfile] at h

/-- Settings that are loaded are what the sources give together, checked as a whole. A fault on the
way is reported, or is a limit, except for exactly these two: the first document that cannot be read
is there and is no UTF-8, or its name is too long. -/
theorem load_faults (tree : FileTree) (directory : Path) (asked : Option Path) :
    (∀ settings, (Settings.load tree directory asked).2 = .ok settings →
      ∃ sources fragments, SettingsSource.forProject tree directory asked = .ok sources ∧
        sources.map (·.fragment tree) = fragments.map .ok ∧
        Settings.read (.mapping (Value.mergeAll fragments)) = .ok settings) ∧
      ∀ fault, (Settings.load tree directory asked).2 = .error fault ∧ fault.isStray = true ↔
        (∃ path, asked = some path ∧ tree.isFile path = .error .nameTooLong ∧
          fault = .inaccessible path .nameTooLong) ∨
        ∃ before source after below path,
          SettingsSource.forProject tree directory asked = .ok (before ++ source :: after) ∧
          (SettingsSource.gather tree [] before).2 = .ok below ∧ source.path? = some path ∧
          StrayIn tree path fault := by
  unfold Settings.load
  cases hsources : SettingsSource.forProject tree directory asked with
  | error other =>
    refine ⟨by simp, ?_⟩
    intro fault
    rw [← SettingsSource.forProject_stray_iff tree directory asked fault, hsources]
    simp
  | ok sources =>
    refine ⟨?_, ?_⟩
    · intro settings h
      obtain ⟨fragments, hfragments⟩ := Settings.ofSources_fragments h
      exact ⟨sources, fragments, rfl, hfragments, Settings.ofSources_eq_ok hfragments h⟩
    · intro fault
      rw [← SettingsSource.forProject_stray_iff tree directory asked fault, hsources]
      dsimp only
      rw [Settings.ofSources_stray_iff tree sources (SettingsSource.forProject_ne_nil hsources),
        SettingsSource.gather_stray_iff]
      simp

set_option maxRecDepth 4000 in
/-- A document of one byte that is no UTF-8, and a path that is too long to ask for: neither fault is
reported. -/
theorem faults_not_reported :
    let tree : FileTree := { root := .directory [(".scadlint.toml".toList, .file [0xFF])] }
    let path : Path := { parts := [List.replicate 256 'a'] }
    let garbled := SettingsFault.undecodable ⟨0, 1, 0xFF, .invalidStart⟩
    let overlong := SettingsFault.inaccessible path .nameTooLong
    (Settings.load tree { parts := [] } none).2 = .error garbled ∧
      garbled.isReported = false ∧ garbled.isLimit = false ∧
      (Settings.load tree { parts := [] } (some path)).2 = .error overlong ∧
      overlong.isReported = false ∧ overlong.isLimit = false := by
  exact ⟨rfl, rfl, rfl, rfl, rfl, rfl⟩

end ScadAdvisor
