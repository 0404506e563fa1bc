import ScadAdvisor.CommandLine.Run
import ScadAdvisor.Proofs.File.Search

/-! # The collected sources

The sources that given paths stand for are a set. How often, in which order and under which of several
overlapping directories they were found does not show.
-/

namespace ScadAdvisor

namespace FileTree

variable {tree : FileTree}

/-! ## From a given path -/

def IsMatch (tree : FileTree) (directory : Path) (pattern : Text) (file : Path) : Prop :=
  ∃ parts, GlobPart.ofPattern tree.limits.patternParts pattern = .ok parts ∧
    tree.IsFound (.anywhere :: parts) directory file

/-- The pattern is one that can be searched for, and the search meets nothing too long or too deep. -/
def Admits (tree : FileTree) (directory : Path) (pattern : Text) : Prop :=
  ∃ parts, GlobPart.ofPattern tree.limits.patternParts pattern = .ok parts ∧
    tree.Searchable (.anywhere :: parts) directory

instance (tree : FileTree) (directory : Path) (pattern : Text) :
    Decidable (tree.Admits directory pattern) :=
  match h : GlobPart.ofPattern tree.limits.patternParts pattern with
  | .ok parts => decidable_of_iff (tree.Searchable (.anywhere :: parts) directory) (by simp [Admits, h])
  | .error fault => .isFalse (by simp [Admits, h])

theorem searchPattern_yields (htree : tree.root.IsProper) {directory : Path} {pattern : Text}
    (hdirectory : tree.isDirectory directory = .ok true) (h : tree.Admits directory pattern) :
    Yields (tree.searchPattern directory pattern) (tree.IsMatch directory pattern) := by
  obtain ⟨parts, hparts, hsearch⟩ := h
  have hselect := select_yields htree _ directory (fun _ => LeadsTo.of_isDirectory hdirectory) hsearch
  rw [searchPattern, hparts]
  refine hselect.congr fun file => ?_
  simp [IsMatch, hparts]

/-- A source that a given path stands for. -/
def StandsFor (tree : FileTree) (patterns : List Text) (path source : Path) : Prop :=
  (tree.isFile path = .ok true ∧ source = path) ∨
    tree.isDirectory path = .ok true ∧ ∃ pattern ∈ patterns, tree.IsMatch path pattern source

theorem isFile_of_isDirectory {path : Path} (h : tree.isDirectory path = .ok true) :
    tree.isFile path = .ok false := by
  obtain ⟨children, hfind⟩ := isDirectory_iff.mp h
  rw [isFile, hfind]
  rfl

/-- Every path is there, and below a directory each pattern can be searched for. -/
structure CanCollect (tree : FileTree) (patterns : List Text) (paths : List Path) : Prop where
  existing : ∀ path ∈ paths, tree.isFile path = .ok true ∨ tree.isDirectory path = .ok true
  admits : ∀ path ∈ paths, tree.isDirectory path = .ok true →
    ∀ pattern ∈ patterns, tree.Admits path pattern

instance (tree : FileTree) (patterns : List Text) (paths : List Path) :
    Decidable (tree.CanCollect patterns paths) :=
  decidable_of_iff
    ((∀ path ∈ paths, tree.isFile path = .ok true ∨ tree.isDirectory path = .ok true) ∧
      ∀ path ∈ paths, tree.isDirectory path = .ok true →
        ∀ pattern ∈ patterns, tree.Admits path pattern)
    ⟨fun ⟨h1, h2⟩ => ⟨h1, h2⟩, fun ⟨h1, h2⟩ => ⟨h1, h2⟩⟩

theorem expand_yields (htree : tree.root.IsProper) {patterns : List Text} {path : Path}
    (hpath : tree.isFile path = .ok true ∨ tree.isDirectory path = .ok true)
    (hsearch : tree.isDirectory path = .ok true → ∀ pattern ∈ patterns, tree.Admits path pattern) :
    Yields (tree.expand patterns path) (tree.StandsFor patterns path) := by
  rcases hpath with hfile | hdirectory
  · have hnot : tree.isDirectory path ≠ .ok true := by
      intro hdirectory
      rw [isFile_of_isDirectory hdirectory] at hfile
      cases hfile
    rw [expand, hfile]
    exact (Yields.singleton path).congr fun source => by simp [StandsFor, hfile, hnot]
  · rw [expand, isFile_of_isDirectory hdirectory, hdirectory]
    refine (Yields.flatten_mapM fun pattern hmem =>
      searchPattern_yields htree hdirectory (hsearch hdirectory pattern hmem)).congr fun source => ?_
    simp [StandsFor, hdirectory, isFile_of_isDirectory hdirectory]

theorem collect_yields (htree : tree.root.IsProper) {patterns : List Text} {paths : List Path}
    (hpaths : tree.CanCollect patterns paths) :
    ∃ found, tree.collect patterns paths = .ok (Path.sorted found) ∧
      ∀ source, source ∈ found ↔ ∃ path ∈ paths, tree.StandsFor patterns path source := by
  obtain ⟨found, hfound, hmem⟩ := Yields.flatten_mapM fun path hpath =>
    expand_yields htree (hpaths.existing path hpath) (hpaths.admits path hpath)
  refine ⟨found, ?_, hmem⟩
  unfold collect
  cases hall : paths.mapM (tree.expand patterns) with
  | error fault => rw [hall] at hfound; cases hfound
  | ok lists =>
    rw [hall] at hfound
    cases hfound
    rfl

/-! ## Paths of sources -/

theorem LeadsTo.names {path : Path} {node : FileNode} {names : List Text}
    (h : tree.LeadsTo (path.below names) node) (htree : tree.root.IsProper) :
    ∀ name ∈ names, name = ['.', '.'] ∨ IsFileName name := by
  induction names generalizing path with
  | nil => simp
  | cons name rest ih =>
    obtain ⟨children, hpath⟩ := h.of_below
    rw [Path.below_cons] at h
    obtain ⟨child, hchild⟩ := h.exists_of_below
    intro other hother
    rcases List.mem_cons.mp hother with rfl | hother
    · by_cases hup : other = ['.', '.']
      · exact .inl hup
      · cases hpath.isProper htree with
        | directory nodup names below => exact .inr (names _ (hchild.mem_entries hpath htree hup))
    · exact ih h other hother

theorem LeadsTo.isProper_below {path : Path} {node : FileNode} {names : List Text}
    (h : tree.LeadsTo (path.below names) node) (htree : tree.root.IsProper) (hpath : path.IsProper) :
    (path.below names).IsProper := by
  refine ⟨hpath.1, fun name hname => ?_⟩
  rcases List.mem_append.mp hname with hname | hname
  · exact hpath.2 name hname
  · rcases h.names htree name hname with rfl | hfile
    · decide
    · exact hfile.no_slash

theorem StandsFor.isProper {patterns : List Text} {path source : Path}
    (h : tree.StandsFor patterns path source) (htree : tree.root.IsProper) (hpath : path.IsProper) :
    source.IsProper := by
  rcases h with ⟨-, rfl⟩ | ⟨-, pattern, -, parts, -, hfile, names, -, rfl⟩
  · exact hpath
  · obtain ⟨bytes, hleads⟩ := LeadsTo.of_isFile hfile
    exact hleads.isProper_below htree hpath

/-! ## Directories inside others -/

/-- A directory below another one, under a path that goes on from that of the other one. -/
def IsNested (tree : FileTree) (directory path : Path) : Prop :=
  tree.isDirectory directory = .ok true ∧ tree.isDirectory path = .ok true ∧
    ∃ names, ['.', '.'] ∉ names ∧ path = directory.below names

theorem IsNested.length_le {directory path : Path} (h : tree.IsNested directory path) :
    directory.parts.length ≤ path.parts.length := by
  obtain ⟨-, -, names, -, rfl⟩ := h
  simp [Path.below]

theorem IsNested.directories_subset {directory path : Path} (h : tree.IsNested directory path)
    (htree : tree.root.IsProper) : tree.directories path ⊆ tree.directories directory := by
  obtain ⟨hdirectory, hpath, names, hup, rfl⟩ := h
  obtain ⟨children, hleads⟩ := LeadsTo.of_isDirectory hdirectory
  obtain ⟨below, hbelow⟩ := LeadsTo.of_isDirectory hpath
  rw [hleads.directories (canAsk_of_answer hdirectory),
    hbelow.directories (canAsk_of_answer hpath)]
  intro other hother
  obtain ⟨more, hmore, rfl⟩ := List.mem_map.mp hother
  obtain ⟨hfurther, hmoreUp⟩ := (hbelow.mem_directories_iff htree more).mp hmore
  rw [← Path.below_append] at hfurther ⊢
  exact List.mem_map_of_mem
    ((hleads.mem_directories_iff htree _).mpr ⟨hfurther, by simp [hup, hmoreUp]⟩)

theorem IsNested.admits {directory path : Path} {pattern : Text} (h : tree.IsNested directory path)
    (htree : tree.root.IsProper) (hadmits : tree.Admits directory pattern) :
    tree.Admits path pattern := by
  obtain ⟨parts, hparts, hsearch⟩ := hadmits
  refine ⟨parts, hparts, fun other hother => ?_⟩
  obtain ⟨hdepth, hfurther⟩ := hsearch other (h.directories_subset htree hother)
  exact ⟨hdepth.trans (by have := h.length_le; omega), hfurther⟩

/-! ## The same request in other words -/

variable {patterns otherPatterns : List Text} {paths otherPaths : List Path}

/-- The collected sources increase, and are the sources that the paths stand for. -/
theorem CanCollect.collect (h : tree.CanCollect patterns paths) (htree : tree.root.IsProper)
    (hproper : ∀ path ∈ paths, path.IsProper) :
    ∃ sources, tree.collect patterns paths = .ok sources ∧ Path.Increasing sources ∧
      ∀ source, source ∈ sources ↔ ∃ path ∈ paths, tree.StandsFor patterns path source := by
  obtain ⟨found, hcollect, hfound⟩ := collect_yields htree h
  refine ⟨Path.sorted found, hcollect, Path.increasing_sorted fun source hsource => ?_, fun source => ?_⟩
  · obtain ⟨path, hpath, hstands⟩ := (hfound source).mp hsource
    exact hstands.isProper htree (hproper path hpath)
  · rw [Path.mem_sorted, hfound]

end FileTree

/-! ## Scans -/

namespace CommandLine

end CommandLine

end ScadAdvisor
