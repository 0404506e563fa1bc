import Mathlib.Tactic.Common
import ScadAdvisor.Proofs.Settings
import ScadAdvisor.Proofs.Toml
import ScadAdvisor.Proofs.Value.Equality
import ScadAdvisor.Settings.Source

/-! # Which source decides about an extension

Fragments are put over each other by the keys as they are written, and only then are the keys brought
into their normal form. So the spelling that came in last decides, with what was last said about it.
-/

namespace ScadAdvisor

open SettingsSource (subtable)

/-! ## Fragments -/

theorem subtable_eq_nil_or (key : Text) (table : Table Value) :
    subtable key table = [] ∨ table.get? key = some (.mapping (subtable key table)) := by
  unfold subtable
  split
  · rename_i h
    exact Or.inr h
  · exact Or.inl rfl

theorem entriesWellFormed_subtable {table : Table Value} (h : Value.entriesWellFormed table = true)
    (key : Text) : Value.entriesWellFormed (subtable key table) = true := by
  rcases subtable_eq_nil_or key table with hnil | hget
  · rw [hnil]
    rfl
  · have := Value.isWellFormed_field? (v := .mapping table) h hget
    rwa [Value.isWellFormed] at this

theorem SettingsSource.readDocument_isWellFormed {tree : FileTree} {path : Path} {table : Table Value}
    (h : readDocument tree path = .ok table) : Value.entriesWellFormed table = true := by
  unfold readDocument at h
  split at h
  · cases h
  · cases h
    rfl
  split at h
  · cases h
  split at h
  · cases h
  split at h
  · cases h
  · cases h
  · cases h
  · rename_i hparse
    cases h
    exact Toml.parse_isWellFormed _ _ _ hparse

theorem SettingsSource.fragment_isWellFormed {tree : FileTree} {source : SettingsSource}
    {table : Table Value} (h : source.fragment tree = .ok table) :
    Value.entriesWellFormed table = true := by
  cases source with
  | defaults =>
    cases h
    decide +kernel
  | document path name => exact readDocument_isWellFormed h
  | project path name =>
    rw [fragment] at h
    cases hread : readDocument tree path with
    | error fault => simp [hread, Except.map] at h
    | ok document =>
      rw [hread] at h
      cases h
      unfold projectSection
      exact entriesWellFormed_subtable (entriesWellFormed_subtable (readDocument_isWellFormed hread) _) _

theorem SettingsSource.gather_eq_ok {tree : FileTree} {merged table : Table Value}
    {sources : List SettingsSource} {fragments : List (Table Value)}
    (hfragments : sources.map (·.fragment tree) = fragments.map .ok)
    (h : (gather tree merged sources).2 = .ok table) : table = fragments.foldl Value.merge merged := by
  induction sources generalizing merged fragments with
  | nil =>
    cases fragments with
    | nil =>
      cases h
      rfl
    | cons => cases hfragments
  | cons source rest ih =>
    cases fragments with
    | nil => cases hfragments
    | cons first more =>
      simp only [List.map_cons, List.cons.injEq] at hfragments
      simp only [gather, hfragments.1] at h
      split at h
      · cases h
      · rw [List.foldl_cons]
        exact ih hfragments.2 h

theorem Settings.ofSources_eq_ok {tree : FileTree} {sources : List SettingsSource}
    {fragments : List (Table Value)} {settings : Settings}
    (hfragments : sources.map (·.fragment tree) = fragments.map .ok)
    (h : (Settings.ofSources tree sources).2 = .ok settings) :
    Settings.read (.mapping (Value.mergeAll fragments)) = .ok settings := by
  unfold Settings.ofSources at h
  split at h
  · cases h
  dsimp only at h
  split at h
  · cases h
  · rename_i table hgather
    have htable : table = Value.mergeAll fragments := SettingsSource.gather_eq_ok hfragments hgather
    rw [← htable]
    split at h
    · rename_i hread
      cases h
      exact hread
    · cases h

/-! ## The tables of extensions -/

def extensionsOf (fragment : Table Value) : Table Value :=
  subtable Field.extensions (subtable Field.scan fragment)

def holdsTable (key : Text) (table : Table Value) : Bool := (table.get? key).all Value.isMapping

def givesTables (fragment : Table Value) : Bool :=
  holdsTable Field.scan fragment && holdsTable Field.extensions (subtable Field.scan fragment)

theorem mergeOver_get? (earlier : Table Value) (key : Text) {entries : Table Value}
    (hkeys : entries.keys.Nodup) :
    Value.mergeOver (earlier.get? key) (.mapping entries) =
      .mapping (Value.merge (subtable key earlier) entries) := by
  unfold subtable Value.merge
  split
  · rename_i below hget
    rw [hget, Value.mergeOver]
  · rename_i hnot
    rcases Value.mergeOver_mapping_cases (earlier.get? key) entries with ⟨below, hget, -⟩ | ⟨-, h⟩
    · exact absurd hget (hnot below)
    · rw [h, Value.mergeEntries_eq_append [] entries hkeys, List.nil_append]

theorem subtable_merge {later : Table Value} (hlater : Value.entriesWellFormed later = true)
    {key : Text} (hkey : holdsTable key later = true) (earlier : Table Value) :
    subtable key (Value.merge earlier later) =
      Value.merge (subtable key earlier) (subtable key later) := by
  have hget := Value.get?_mergeEntries earlier later ((Value.entriesWellFormed_iff later).mp hlater).1 key
  cases hfield : later.get? key with
  | none => simp [subtable, Value.merge, hget, hfield, Value.mergeEntries]
  | some v =>
    rcases v.mapping_or with ⟨entries, rfl⟩ | hnot
    · have hentries : subtable key later = entries := by simp [subtable, hfield]
      have hbelow := entriesWellFormed_subtable hlater key
      rw [hentries, Value.entriesWellFormed_iff] at hbelow
      rw [hfield, Option.map_some, Option.some_or, mergeOver_get? earlier key hbelow.1] at hget
      rw [hentries, subtable, Value.merge, hget]
    · simp [holdsTable, hfield, hnot] at hkey

theorem extensionsOf_mergeAll {fragments : List (Table Value)}
    (hwell : ∀ fragment ∈ fragments, Value.entriesWellFormed fragment = true)
    (htables : ∀ fragment ∈ fragments, givesTables fragment = true) :
    extensionsOf (Value.mergeAll fragments) = Value.mergeAll (fragments.map extensionsOf) := by
  induction fragments using List.reverseRecOn with
  | nil => rfl
  | append_singleton fragments last ih =>
    have hlast := hwell last (by simp)
    have hgives := htables last (by simp)
    rw [givesTables, Bool.and_eq_true] at hgives
    have hrest := ih (fun f hf => hwell f (List.mem_append_left _ hf))
      fun f hf => htables f (List.mem_append_left _ hf)
    rw [Value.mergeAll_concat, List.map_append, List.map_singleton, Value.mergeAll_concat, ← hrest]
    unfold extensionsOf
    rw [subtable_merge hlast hgives.1,
      subtable_merge (entriesWellFormed_subtable hlast _) hgives.2]

/-! ## Spellings -/

/-- Whether a key is some way to write an extension. -/
def spells (extension key : Text) : Bool := normalExtension? key == some extension

/-- The ways in which tables write an extension, in the order in which they come in. -/
def spellings (extension : Text) (tables : List (Table Value)) : List Text :=
  (tables.flatMap Table.keys).eraseDups.filter (spells extension)

def lastGiven (key : Text) (tables : List (Table Value)) : Option Value :=
  tables.reverse.findSome? (Table.get? key)

def entriesFor {α : Type} (extension : Text) (table : Table α) : Table α :=
  table.filter fun item => spells extension item.1

/-- The last entry for an extension in the highest table that has one. -/
def highest (extension : Text) (tables : List (Table Value)) : Option (Text × Value) :=
  tables.reverse.findSome? fun table => (entriesFor extension table).getLast?

theorem spellings_eq (extension : Text) (tables : List (Table Value)) :
    spellings extension tables = (entriesFor extension (Value.mergeAll tables)).keys := by
  rw [spellings, ← Value.keys_mergeAll, entriesFor, Table.keys, Table.keys, List.filter_map]
  rfl

theorem lastGiven_of_get?_mergeAll {tables : List (Table Value)}
    (hwell : ∀ table ∈ tables, Value.entriesWellFormed table = true) {key : Text} {v : Value}
    (hv : v.isMapping = false) (h : (Value.mergeAll tables).get? key = some v) :
    lastGiven key tables = some v := by
  have hat : ∀ table : Table Value, Value.at? [key] (.mapping table) = table.get? key := by
    intro table
    simp [Value.at?, Value.field?]
  obtain ⟨earlier, table, later, rfl, htable, hlater⟩ :=
    (Value.at?_mergeAll hv [key] hwell).mp (by rw [hat, h])
  rw [hat] at htable
  refine List.findSome?_eq_some_iff.mpr ⟨later.reverse, table, earlier.reverse, by simp, htable, ?_⟩
  intro other hother
  have hopen := (Value.leavesOpen_iff _ _).mp (hlater other (List.mem_reverse.mp hother))
  rw [← hat]
  exact hopen.1

@[simp] theorem mem_entriesFor_iff {α : Type} {extension : Text} {table : Table α} {item : Text × α} :
    item ∈ entriesFor extension table ↔ item ∈ table ∧ spells extension item.1 = true := by
  simp [entriesFor]

theorem entriesFor_cons {α : Type} (extension key : Text) (a : α) (rest : Table α) :
    entriesFor extension ((key, a) :: rest) =
      if spells extension key = true then (key, a) :: entriesFor extension rest
      else entriesFor extension rest := by
  simp [entriesFor, List.filter_cons]

theorem lastGiven_of_highest {tables : List (Table Value)}
    (hkeys : ∀ table ∈ tables, table.keys.Nodup) {extension spelling : Text} {v : Value}
    (h : highest extension tables = some (spelling, v)) : lastGiven spelling tables = some v := by
  obtain ⟨later, table, earlier, hsplit, hlast, hlater⟩ := List.findSome?_eq_some_iff.mp h
  obtain ⟨hmem, hspells⟩ := mem_entriesFor_iff.mp (List.mem_of_getLast? hlast)
  have htable : table ∈ tables := by
    rw [← List.mem_reverse, hsplit]
    simp
  refine List.findSome?_eq_some_iff.mpr
    ⟨later, table, earlier, hsplit, Table.get?_of_mem (hkeys table htable) hmem, ?_⟩
  intro other hother
  rw [Table.get?_eq_none_iff]
  intro hkey
  obtain ⟨item, hitem, rfl⟩ := List.mem_map.mp hkey
  have hfor := mem_entriesFor_iff.mpr ⟨hitem, hspells⟩
  rw [List.getLast?_eq_none_iff.mp (hlater other hother)] at hfor
  cases hfor

theorem mem_spellings_of_highest {extension spelling : Text} {tables : List (Table Value)} {v : Value}
    (h : highest extension tables = some (spelling, v)) : spelling ∈ spellings extension tables := by
  obtain ⟨table, htable, hlast⟩ := List.exists_of_findSome?_eq_some h
  obtain ⟨hmem, hspells⟩ := mem_entriesFor_iff.mp (List.mem_of_getLast? hlast)
  rw [spellings, List.mem_filter, List.mem_eraseDups, List.mem_flatMap]
  exact ⟨⟨table, List.mem_reverse.mp htable, List.mem_map_of_mem hmem⟩, hspells⟩

theorem highest_isSome {extension : Text} {tables : List (Table Value)}
    (h : spellings extension tables ≠ []) : ∃ entry, highest extension tables = some entry := by
  obtain ⟨key, hkey⟩ := List.exists_mem_of_ne_nil _ h
  simp only [spellings, List.mem_filter, List.mem_eraseDups, List.mem_flatMap] at hkey
  obtain ⟨⟨table, htable, hkey⟩, hspells⟩ := hkey
  obtain ⟨item, hitem, rfl⟩ := List.mem_map.mp hkey
  have hfor := mem_entriesFor_iff.mpr ⟨hitem, hspells⟩
  rw [← Option.isSome_iff_exists, highest, List.findSome?_isSome_iff]
  refine ⟨table, List.mem_reverse.mpr htable, ?_⟩
  rw [List.getLast?_isSome]
  exact List.ne_nil_of_mem hfor

/-! ## Reading -/

theorem Read.table_eq_ok {entries : Table Value} {texts : Table Text}
    (h : Read.table (.mapping entries) = .ok texts) :
    entries = texts.map fun item => (item.1, .string item.2) := by
  induction entries generalizing texts with
  | nil =>
    cases h
    rfl
  | cons item rest ih =>
    obtain ⟨key, v⟩ := item
    obtain ⟨⟨⟨k, text⟩, more⟩, hboth, rfl⟩ := (Outcome.map_eq_ok _ _ _).mp h
    obtain ⟨hfirst, hmore⟩ := (Checked.both_eq_ok _ _ _ _).mp hboth
    obtain ⟨text, hstring, ⟨⟩⟩ := (Outcome.map_eq_ok _ _ _).mp ((Checked.under_eq_ok _ _ _).mp hfirst)
    rw [List.map_cons, ← ih hmore]
    cases v with
    | string =>
      cases hstring
      rfl
    | _ => cases hstring

theorem get?_normalExtensionsFrom {done texts normal : Table Text}
    (h : normalExtensionsFrom done texts = some normal) (extension : Text) :
    normal.get? extension =
      ((entriesFor extension texts).getLast?.map (·.2)).or (done.get? extension) := by
  induction texts generalizing done with
  | nil =>
    cases h
    rfl
  | cons item rest ih =>
    obtain ⟨key, message⟩ := item
    rw [normalExtensionsFrom] at h
    split at h
    · cases h
    · rename_i normalKey hnormal
      rw [ih h, Table.get?_put]
      by_cases hkey : normalKey = extension
      · have hspells : spells extension key = true := by simp [spells, hnormal, hkey]
        rw [entriesFor_cons, if_pos hkey, if_pos hspells, List.getLast?_cons]
        cases (entriesFor extension rest).getLast? <;> rfl
      · have hspells : ¬ spells extension key = true := by simp [spells, hnormal, hkey]
        rw [entriesFor_cons, if_neg hkey, if_neg hspells]

theorem Read.extensions_eq_ok {entries : Table Value} {normal : Table Text}
    (h : Read.extensions (.mapping entries) = .ok normal) {extension key : Text} {v : Value}
    (hlast : (entriesFor extension entries).getLast? = some (key, v)) :
    ∃ message, v = .string message ∧ normal.get? extension = some message := by
  obtain ⟨texts, htexts, hnormal⟩ := (Outcome.bind_eq_ok _ _ _).mp h
  have hentries := Read.table_eq_ok htexts
  unfold checkExtensions at hnormal
  split at hnormal
  · rename_i checked hfrom
    cases hnormal
    have hmap : entriesFor extension entries =
        (entriesFor extension texts).map fun item => (item.1, .string item.2) := by
      rw [hentries, entriesFor, entriesFor, List.filter_map]
      rfl
    rw [hmap, List.getLast?_map] at hlast
    obtain ⟨⟨k, message⟩, htext, ⟨⟩⟩ := Option.map_eq_some_iff.mp hlast
    refine ⟨message, rfl, ?_⟩
    rw [get?_normalExtensionsFrom hfrom, htext]
    rfl
  · cases hnormal

theorem Read.optional_of_get? {α : Type} {fields : Table Value} {name : Text} {v : Value}
    (hget : fields.get? name = some v) {default a : α} {read : Value → Checked α}
    (h : Read.optional fields name default read = .ok a) : read v = .ok a := by
  unfold Read.optional at h
  rw [hget] at h
  exact (Checked.under_eq_ok _ _ _).mp h

theorem ScanSettings.read_extensions {fields : Table Value} {s : ScanSettings}
    (h : ScanSettings.read (.mapping fields) = .ok s) {v : Value}
    (hget : fields.get? Field.extensions = some v) : Read.extensions v = .ok s.extensions := by
  unfold ScanSettings.read at h
  obtain ⟨_, ⟨⟩, h⟩ := (Outcome.bind_eq_ok _ _ _).mp h
  obtain ⟨⟨deprecations, reassignments, parameters, extensions, includes⟩, hfields, h⟩ :=
    (Outcome.bind_eq_ok _ _ _).mp h
  simp only [Checked.both_eq_ok] at hfields
  cases h
  exact Read.optional_of_get? hget hfields.2.2.2.1

theorem Settings.read_extensions {table : Table Value} {settings : Settings}
    (h : Settings.read (.mapping table) = .ok settings) (hne : extensionsOf table ≠ []) :
    Read.extensions (.mapping (extensionsOf table)) = .ok settings.scan.extensions := by
  have hextensions := (subtable_eq_nil_or Field.extensions (subtable Field.scan table)).resolve_left hne
  have hscan : table.get? Field.scan = some (.mapping (subtable Field.scan table)) := by
    refine (subtable_eq_nil_or Field.scan table).resolve_left ?_
    intro hnil
    rw [hnil] at hextensions
    cases hextensions
  unfold Settings.read at h
  obtain ⟨_, ⟨⟩, h⟩ := (Outcome.bind_eq_ok _ _ _).mp h
  obtain ⟨⟨scan, output⟩, hfields, h⟩ := (Outcome.bind_eq_ok _ _ _).mp h
  rw [Checked.both_eq_ok] at hfields
  cases h
  exact ScanSettings.read_extensions (Read.optional_of_get? hscan hfields.1) hextensions

theorem Read.extensions_mergeAll {tables : List (Table Value)}
    (hwell : ∀ table ∈ tables, Value.entriesWellFormed table = true) {normal : Table Text}
    (h : Read.extensions (.mapping (Value.mergeAll tables)) = .ok normal) {extension : Text}
    (hgiven : spellings extension tables ≠ []) :
    ∃ newest message, (spellings extension tables).getLast? = some newest ∧
      lastGiven newest tables = some (.string message) ∧ normal.get? extension = some message := by
  rw [spellings_eq] at hgiven ⊢
  have hne : entriesFor extension (Value.mergeAll tables) ≠ [] := by
    intro hnil
    rw [hnil] at hgiven
    exact hgiven rfl
  obtain ⟨⟨newest, v⟩, hlast⟩ := Option.isSome_iff_exists.mp (List.getLast?_isSome.mpr hne)
  obtain ⟨message, rfl, hmessage⟩ := Read.extensions_eq_ok h hlast
  have hkeys : (Value.mergeAll tables).keys.Nodup := by
    rw [Value.keys_mergeAll]
    exact Value.nodup_eraseDups _
  have hget := Table.get?_of_mem hkeys (mem_entriesFor_iff.mp (List.mem_of_getLast? hlast)).1
  refine ⟨newest, message, ?_, lastGiven_of_get?_mergeAll hwell rfl hget, hmessage⟩
  rw [Table.keys, List.getLast?_map, hlast]
  rfl

/-! ## All sources -/

/-- The spelling that came in last decides about an extension, with what the highest source that has
this spelling says. The last entry of the highest source with any spelling counts if it has this one. -/
theorem extension_of_sources (tree : FileTree) (sources : List SettingsSource)
    (fragments : List (Table Value)) (settings : Settings) (extension : Text)
    (hfragments : sources.map (·.fragment tree) = fragments.map .ok)
    (htables : ∀ fragment ∈ fragments, givesTables fragment = true)
    (hsettings : (Settings.ofSources tree sources).2 = .ok settings)
    (hgiven : spellings extension (fragments.map extensionsOf) ≠ []) :
    ∃ newest spelling message v,
      (spellings extension (fragments.map extensionsOf)).getLast? = some newest ∧
      lastGiven newest (fragments.map extensionsOf) = some (.string message) ∧
      settings.scan.extensions.get? extension = some message ∧
      highest extension (fragments.map extensionsOf) = some (spelling, v) ∧
      spelling ∈ spellings extension (fragments.map extensionsOf) ∧
      (spelling = newest → v = .string message) := by
  have hwell : ∀ fragment ∈ fragments, Value.entriesWellFormed fragment = true := by
    intro fragment hmem
    have hok : .ok fragment ∈ sources.map (·.fragment tree) := by
      rw [hfragments]
      exact List.mem_map_of_mem hmem
    obtain ⟨source, -, hsource⟩ := List.mem_map.mp hok
    exact SettingsSource.fragment_isWellFormed hsource
  have hextensions : ∀ table ∈ fragments.map extensionsOf, Value.entriesWellFormed table = true := by
    intro table hmem
    obtain ⟨fragment, hfragment, rfl⟩ := List.mem_map.mp hmem
    exact entriesWellFormed_subtable (entriesWellFormed_subtable (hwell fragment hfragment) _) _
  have hkeys : ∀ table ∈ fragments.map extensionsOf, table.keys.Nodup :=
    fun table hmem => ((Value.entriesWellFormed_iff table).mp (hextensions table hmem)).1
  have hmerged := extensionsOf_mergeAll hwell htables
  have hne : extensionsOf (Value.mergeAll fragments) ≠ [] := by
    intro hnil
    rw [spellings_eq, ← hmerged, hnil] at hgiven
    exact hgiven rfl
  have hread := Settings.read_extensions (Settings.ofSources_eq_ok hfragments hsettings) hne
  rw [hmerged] at hread
  obtain ⟨newest, message, hnewest, hlast, hmessage⟩ := Read.extensions_mergeAll hextensions hread hgiven
  obtain ⟨⟨spelling, v⟩, hhighest⟩ := highest_isSome hgiven
  refine ⟨newest, spelling, message, v, hnewest, hlast, hmessage, hhighest,
    mem_spellings_of_highest hhighest, ?_⟩
  rintro rfl
  rw [lastGiven_of_highest hkeys hhighest] at hlast
  exact Option.some.inj hlast

/-! ## A spelling between two others -/

namespace Respelled

def bytes (key message : String) : List UInt8 :=
  ("[scan.deprecated_extensions]\n'" ++ key ++ "'='" ++ message ++ "'").toList.map (·.toNat.toUInt8)

def path (name : String) : Path := { parts := [name.toList] }

/-- The document of the directory writes `.amf` in another way, and the one that is asked for writes it
as the defaults do. -/
def tree : FileTree :=
  { root := .directory [(".scadlint.toml".toList, .file (bytes "AMF" "standing")),
      ("asked.toml".toList, .file (bytes ".amf" "asked"))] }

def sources : List SettingsSource :=
  [.defaults, .document (path ".scadlint.toml") [], .document (path "asked.toml") []]

def fragment (key message : String) : Table Value :=
  [(Field.scan, .mapping [(Field.extensions, .mapping [(key.toList, .string message.toList)])])]

def fragments : List (Table Value) :=
  [({} : Settings).toTable, fragment "AMF" "standing", fragment ".amf" "asked"]

def settings : Settings := { scan := { extensions := [(".amf".toList, "standing".toList)] } }

theorem fragment_sources : sources.map (·.fragment tree) = fragments.map .ok := by
  have hdefaults : SettingsSource.defaults.fragment tree = .ok ({} : Settings).toTable := rfl
  have hstanding : (SettingsSource.document (path ".scadlint.toml") []).fragment tree =
      .ok (fragment "AMF" "standing") := Outcome.eq_ok_of_toOption (by decide +kernel)
  have hasked : (SettingsSource.document (path "asked.toml") []).fragment tree =
      .ok (fragment ".amf" "asked") := Outcome.eq_ok_of_toOption (by decide +kernel)
  simp only [sources, fragments, List.map_cons, List.map_nil, hdefaults, hstanding, hasked]

theorem givesTables_fragments : ∀ fragment ∈ fragments, givesTables fragment = true := by
  decide +kernel

theorem ofSources_eq : (Settings.ofSources tree sources).2 = .ok settings :=
  Outcome.eq_ok_of_toOption (by decide +kernel)

theorem newest_spelling_decides :
    lastGiven "AMF".toList (fragments.map extensionsOf) = some (.string "standing".toList) ∧
      settings.scan.extensions.get? ".amf".toList = some "standing".toList := by
  have hspellings : spellings ".amf".toList (fragments.map extensionsOf) =
      [".amf".toList, "AMF".toList] := by decide +kernel
  obtain ⟨newest, _, message, _, hnewest, hlast, hmessage, -⟩ :=
    extension_of_sources tree sources fragments settings ".amf".toList fragment_sources
      givesTables_fragments ofSources_eq (by rw [hspellings]; exact List.cons_ne_nil _ _)
  rw [hspellings] at hnewest
  cases hnewest
  have hstanding : settings.scan.extensions.get? ".amf".toList = some "standing".toList := by decide
  rw [hstanding] at hmessage
  cases hmessage
  exact ⟨hlast, hstanding⟩

/-- The document that is asked for is the highest one and has the extension, but another one decides. -/
theorem highest_source_overruled :
    sources.map (·.fragment tree) = fragments.map .ok ∧
      (∀ fragment ∈ fragments, givesTables fragment = true) ∧
      (Settings.ofSources tree sources).2 = .ok settings ∧
      highest ".amf".toList (fragments.map extensionsOf) =
        some (".amf".toList, .string "asked".toList) ∧
      settings.scan.extensions.get? ".amf".toList = some "standing".toList := by
  exact ⟨fragment_sources, givesTables_fragments, ofSources_eq, by decide +kernel, by decide⟩

end Respelled

end ScadAdvisor
