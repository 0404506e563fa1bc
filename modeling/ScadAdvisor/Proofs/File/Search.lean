import ScadAdvisor.File.Collect
import ScadAdvisor.Proofs.File.Lookup
import ScadAdvisor.Proofs.Outcome

/-! # Searching a directory

What a search finds is said by the names that the components of a pattern describe: a file is found if
the names lead to it, and if the system could be asked about every path on the way.
-/

namespace ScadAdvisor

namespace FileTree

/-! ## What a pattern describes -/

/-- The names of a file that the components describe. Where they end in two stars or in a slash, they
describe directories only. -/
def Describes : List GlobPart → List Text → Prop
  | [], names => names = []
  | .here :: _, _ => False
  | .exactly name :: rest, names => ∃ more, names = name :: more ∧ Describes rest more
  | .fitting pattern :: rest, names =>
    ∃ name more, names = name :: more ∧ (Glob.fits pattern name = true ∧ name ≠ ['.', '.']) ∧
      Describes rest more
  | .anywhere :: rest, names =>
    rest ≠ [] ∧ ∃ front more, names = front ++ more ∧ ['.', '.'] ∉ front ∧ Describes rest more

theorem Describes.ne_nil {parts : List GlobPart} {names : List Text} (h : Describes parts names)
    (hparts : parts ≠ []) : names ≠ [] := by
  induction parts generalizing names with
  | nil => exact absurd rfl hparts
  | cons part rest ih =>
    cases part with
    | here => exact h.elim
    | exactly name =>
      obtain ⟨more, rfl, -⟩ := h
      simp
    | fitting pattern =>
      obtain ⟨name, more, rfl, -⟩ := h
      simp
    | anywhere =>
      obtain ⟨hrest, front, more, rfl, -, hmore⟩ := h
      simp [ih hmore hrest]

/-- No path that the search asks about is too long, and no directory that it goes down to is too deep. -/
def Searchable (tree : FileTree) : List GlobPart → Path → Prop
  | [], path | .here :: _, path => tree.CanAsk path
  | .exactly name :: rest, path =>
    let next := path.child name
    tree.CanAsk next ∧
      ((if rest.isEmpty then tree.pathExists next else tree.isDirectory next) = .ok true →
        tree.Searchable rest next)
  | .fitting pattern :: rest, path =>
    tree.CanAsk path ∧
      ∀ entry ∈ (tree.entries path).toOption.getD [],
        Glob.fits pattern entry.1 = true → (rest = [] ∨ entry.2.isDirectory = true) →
          tree.Searchable rest (path.child entry.1)
  | .anywhere :: rest, path =>
    ∀ directory ∈ tree.directories path,
      directory.parts.length ≤ path.parts.length + tree.limits.directories ∧
        tree.Searchable rest directory ∧ tree.CanAsk directory

instance decidableSearchable (tree : FileTree) :
    ∀ parts path, Decidable (tree.Searchable parts path)
  | [], path => inferInstanceAs (Decidable (tree.CanAsk path))
  | .here :: _, path => inferInstanceAs (Decidable (tree.CanAsk path))
  | .exactly name :: rest, path =>
    have := decidableSearchable tree rest (path.child name)
    inferInstanceAs (Decidable (_ ∧ (_ → tree.Searchable rest (path.child name))))
  | .fitting pattern :: rest, path =>
    have := decidableSearchable tree rest
    inferInstanceAs (Decidable (_ ∧ ∀ entry ∈ (tree.entries path).toOption.getD [],
      Glob.fits pattern entry.1 = true → (_ ∨ _) → tree.Searchable rest (path.child entry.1)))
  | .anywhere :: rest, path =>
    have := decidableSearchable tree rest
    inferInstanceAs (Decidable (∀ directory ∈ tree.directories path,
      directory.parts.length ≤ path.parts.length + tree.limits.directories ∧
        tree.Searchable rest directory ∧ tree.CanAsk directory))

def IsFound (tree : FileTree) (parts : List GlobPart) (path file : Path) : Prop :=
  tree.isFile file = .ok true ∧ ∃ names, Describes parts names ∧ file = path.below names

variable {tree : FileTree}

@[simp] theorem isFound_nil_iff (path file : Path) :
    tree.IsFound [] path file ↔ file = path ∧ tree.isFile path = .ok true := by
  unfold IsFound Describes
  constructor
  · rintro ⟨hfile, names, rfl, rfl⟩
    exact ⟨by simp, by simpa using hfile⟩
  · rintro ⟨rfl, hfile⟩
    exact ⟨hfile, [], rfl, by simp⟩

@[simp] theorem isFound_exactly_iff (name : Text) (rest : List GlobPart) (path file : Path) :
    tree.IsFound (.exactly name :: rest) path file ↔ tree.IsFound rest (path.child name) file := by
  unfold IsFound
  constructor
  · rintro ⟨hfile, _, ⟨more, rfl, hmore⟩, rfl⟩
    exact ⟨hfile, more, hmore, Path.below_cons _ _ _⟩
  · rintro ⟨hfile, more, hmore, rfl⟩
    exact ⟨hfile, name :: more, ⟨more, rfl, hmore⟩, (Path.below_cons _ _ _).symm⟩

theorem LeadsTo.of_isFile {path : Path} (h : tree.isFile path = .ok true) :
    ∃ bytes, tree.LeadsTo path (.file bytes) := by
  obtain ⟨bytes, hfind⟩ := isFile_iff.mp h
  exact ⟨bytes, ((find_eq_some_iff _).mp hfind).1⟩

theorem LeadsTo.of_isDirectory {path : Path} (h : tree.isDirectory path = .ok true) :
    ∃ children, tree.LeadsTo path (.directory children) := by
  obtain ⟨children, hfind⟩ := isDirectory_iff.mp h
  exact ⟨children, ((find_eq_some_iff _).mp hfind).1⟩

theorem IsFound.exists_directory {parts : List GlobPart} {path file : Path}
    (h : tree.IsFound parts path file) (hparts : parts ≠ []) :
    ∃ children, tree.LeadsTo path (.directory children) := by
  obtain ⟨hfile, names, hnames, rfl⟩ := h
  obtain ⟨name, more, rfl⟩ := List.exists_cons_of_ne_nil (hnames.ne_nil hparts)
  obtain ⟨bytes, hleads⟩ := LeadsTo.of_isFile hfile
  exact hleads.of_below

theorem CanAsk.exists_isFile {path : Path} (h : tree.CanAsk path) :
    ∃ answer, tree.isFile path = .ok answer := by
  obtain ⟨found, hfind⟩ := h.exists_find
  rw [isFile, hfind]
  exact ⟨_, rfl⟩

theorem select_nil_yields {path : Path} (hask : tree.CanAsk path) :
    Yields (tree.select [] path) (tree.IsFound [] path) := by
  obtain ⟨answer, hfile⟩ := hask.exists_isFile
  rw [select, hfile]
  cases answer with
  | true => exact (Yields.singleton path).congr fun file => by simp [hfile]
  | false => exact Yields.nil.congr fun file => by simp [hfile]

theorem select_here_yields {path : Path} (rest : List GlobPart) (hask : tree.CanAsk path)
    {children : List (Text × FileNode)} (hpath : tree.LeadsTo path (.directory children)) :
    Yields (tree.select (.here :: rest) path) (tree.IsFound (.here :: rest) path) := by
  have hfile : tree.isFile path = .ok false := by rw [isFile, hpath.find hask]; rfl
  rw [select, hfile]
  exact Yields.nil.congr fun file => by simp [IsFound, Describes]

theorem select_exactly_yields {path : Path} {name : Text} {rest : List GlobPart}
    (hask : tree.CanAsk (path.child name))
    (hrest : (if rest.isEmpty then tree.pathExists (path.child name)
        else tree.isDirectory (path.child name)) = .ok true →
      Yields (tree.select rest (path.child name)) (tree.IsFound rest (path.child name))) :
    Yields (tree.select (.exactly name :: rest) path) (tree.IsFound (.exactly name :: rest) path) := by
  obtain ⟨found, hfind⟩ := hask.exists_find
  obtain ⟨passes, hpasses⟩ : ∃ passes, (if rest.isEmpty then tree.pathExists (path.child name)
      else tree.isDirectory (path.child name)) = .ok passes := by
    unfold pathExists isDirectory
    rw [hfind]
    split <;> exact ⟨_, rfl⟩
  rw [select, hpasses]
  cases passes with
  | true => exact (hrest hpasses).congr fun file => (isFound_exactly_iff name rest path file).symm
  | false =>
    refine Yields.nil.congr fun file => ⟨False.elim, fun hfound => ?_⟩
    rw [isFound_exactly_iff] at hfound
    cases rest with
    | nil =>
      obtain ⟨rfl, hfile⟩ := (isFound_nil_iff _ _).mp hfound
      obtain ⟨bytes, hnode⟩ := isFile_iff.mp hfile
      rw [List.isEmpty_nil, if_pos rfl, pathExists, hnode] at hpasses
      cases hpasses
    | cons part rest =>
      obtain ⟨children, hleads⟩ := hfound.exists_directory (by simp)
      rw [List.isEmpty_cons, if_neg (by simp), isDirectory, hleads.find hask] at hpasses
      cases hpasses

theorem isFound_fitting_iff (htree : tree.root.IsProper) {path : Path} {pattern : Text}
    {rest : List GlobPart} {children : List (Text × FileNode)}
    (hpath : tree.LeadsTo path (.directory children)) (file : Path) :
    tree.IsFound (.fitting pattern :: rest) path file ↔
      ∃ entry ∈ children.filter fun entry =>
          Glob.fits pattern entry.1 && (rest.isEmpty || entry.2.isDirectory),
        tree.IsFound rest (path.child entry.1) file := by
  constructor
  · rintro ⟨hfile, _, ⟨name, more, rfl, ⟨hfits, hup⟩, hmore⟩, rfl⟩
    have hfound : tree.IsFound rest (path.child name) (path.below (name :: more)) :=
      ⟨hfile, more, hmore, Path.below_cons _ _ _⟩
    obtain ⟨bytes, hleads⟩ := LeadsTo.of_isFile hfile
    rw [Path.below_cons] at hleads
    obtain ⟨node, hnode⟩ := hleads.exists_of_below
    have hlast : (rest.isEmpty || node.isDirectory) = true := by
      cases rest with
      | nil => rfl
      | cons part rest =>
        obtain ⟨below, hbelow⟩ := hfound.exists_directory (by simp)
        rw [hnode.unique hbelow]
        rfl
    refine ⟨(name, node), List.mem_filter.mpr ⟨hnode.mem_entries hpath htree hup, ?_⟩, hfound⟩
    rw [hfits, hlast]
    rfl
  · rintro ⟨⟨name, node⟩, hentry, hfile, more, hmore, rfl⟩
    obtain ⟨hmem, hfits⟩ := List.mem_filter.mp hentry
    rw [Bool.and_eq_true] at hfits
    cases hpath.isProper htree with
    | directory nodup names below =>
      exact ⟨hfile, name :: more, ⟨name, more, rfl, ⟨hfits.1, (names _ hmem).not_up⟩, hmore⟩,
        (Path.below_cons _ _ _).symm⟩

theorem select_fitting_yields (htree : tree.root.IsProper) {path : Path} {pattern : Text}
    {rest : List GlobPart} {children : List (Text × FileNode)}
    (hpath : tree.LeadsTo path (.directory children)) (hentries : tree.entries path = .ok children)
    (hrest : ∀ entry ∈ children, Glob.fits pattern entry.1 = true →
      (rest = [] ∨ entry.2.isDirectory = true) →
      Yields (tree.select rest (path.child entry.1)) (tree.IsFound rest (path.child entry.1))) :
    Yields (tree.select (.fitting pattern :: rest) path)
      (tree.IsFound (.fitting pattern :: rest) path) := by
  rw [select, hentries]
  refine Yields.congr (Yields.flatten_mapM fun entry hentry => ?_) fun file =>
    (isFound_fitting_iff htree hpath file).symm
  obtain ⟨hmem, hfits⟩ := List.mem_filter.mp hentry
  simp only [Bool.and_eq_true, Bool.or_eq_true, List.isEmpty_iff] at hfits
  exact hrest entry hmem hfits.1 hfits.2

theorem isFound_anywhere_iff (htree : tree.root.IsProper) {path : Path} {rest : List GlobPart}
    {node : FileNode} (hpath : tree.LeadsTo path node) (file : Path) :
    tree.IsFound (.anywhere :: rest) path file ↔
      ∃ directory ∈ node.directories.map path.below, tree.IsFound rest directory file := by
  constructor
  · rintro ⟨hfile, _, ⟨hne, front, more, rfl, hup, hmore⟩, rfl⟩
    have hfound : tree.IsFound rest (path.below front) (path.below (front ++ more)) :=
      ⟨hfile, more, hmore, Path.below_append _ _ _⟩
    have hfront := (hpath.mem_directories_iff htree front).mpr ⟨hfound.exists_directory hne, hup⟩
    exact ⟨_, List.mem_map_of_mem hfront, hfound⟩
  · rintro ⟨_, hdirectory, hfound⟩
    obtain ⟨front, hfront, rfl⟩ := List.mem_map.mp hdirectory
    obtain ⟨⟨below, hleads⟩, hup⟩ := (hpath.mem_directories_iff htree front).mp hfront
    obtain ⟨hfile, more, hmore, rfl⟩ := hfound
    refine ⟨hfile, front ++ more, ⟨?_, front, more, rfl, hup, hmore⟩, (Path.below_append _ _ _).symm⟩
    -- Without further components the file would be the directory.
    rintro rfl
    rw [show more = [] from hmore, Path.below_nil] at hfile
    obtain ⟨bytes, hother⟩ := LeadsTo.of_isFile hfile
    cases hleads.unique hother

theorem mem_directories_self {path : Path} {children : List (Text × FileNode)}
    (hpath : tree.LeadsTo path (.directory children)) : path ∈ tree.directories path := by
  unfold FileTree.directories
  split
  case h_1 node hnode =>
    have hsame := hpath.unique ⟨hpath.1, ((lookup_eq_ok_iff node).mp hnode).2⟩
    exact List.mem_map.mpr ⟨[], by simp [← hsame, FileNode.directories], rfl⟩
  case h_2 => exact List.mem_singleton.mpr rfl

theorem select_anywhere_yields (htree : tree.root.IsProper) {path : Path} {rest : List GlobPart}
    {children : List (Text × FileNode)} (hpath : tree.LeadsTo path (.directory children))
    (hdepth : ∀ directory ∈ tree.directories path,
      directory.parts.length ≤ path.parts.length + tree.limits.directories)
    (hask : ∀ directory ∈ tree.directories path, tree.CanAsk directory)
    (hrest : ∀ directory ∈ tree.directories path,
      (∃ below, tree.LeadsTo directory (.directory below)) →
      Yields (tree.select rest directory) (tree.IsFound rest directory)) :
    Yields (tree.select (.anywhere :: rest) path) (tree.IsFound (.anywhere :: rest) path) := by
  have hdirectories := hpath.directories (hask path (mem_directories_self hpath))
  rw [select]
  refine Yields.congr (Yields.flatten_mapM fun directory hmem => ?_) fun file => by
    rw [isFound_anywhere_iff htree hpath file, hdirectories]
  obtain ⟨names, hnames, rfl⟩ := List.mem_map.mp (hdirectories ▸ hmem)
  obtain ⟨⟨below, hleads⟩, -⟩ := (hpath.mem_directories_iff htree names).mp hnames
  obtain ⟨files, hfiles, hfound⟩ := hrest _ hmem ⟨below, hleads⟩
  refine ⟨files, ?_, hfound⟩
  rw [if_neg (Nat.not_lt.mpr (hdepth _ hmem)), hfiles, hleads.entries (hask _ hmem)]
  rfl

theorem select_yields (htree : tree.root.IsProper) (parts : List GlobPart) (path : Path)
    (hdirectory : parts ≠ [] → ∃ children, tree.LeadsTo path (.directory children))
    (hsearch : tree.Searchable parts path) :
    Yields (tree.select parts path) (tree.IsFound parts path) := by
  induction parts generalizing path with
  | nil => exact select_nil_yields hsearch
  | cons part rest ih =>
    obtain ⟨children, hpath⟩ := hdirectory (by simp)
    cases part with
    | here => exact select_here_yields rest hsearch hpath
    | exactly name =>
      refine select_exactly_yields hsearch.1 fun hpasses => ih _ (fun hne => ?_) (hsearch.2 hpasses)
      rw [if_neg (by simpa using hne)] at hpasses
      exact LeadsTo.of_isDirectory hpasses
    | fitting pattern =>
      obtain ⟨hask, hentries⟩ := hsearch
      have hchildren := hpath.entries hask
      refine select_fitting_yields htree hpath hchildren fun entry hentry hfits hdir => ?_
      rw [hchildren] at hentries
      refine ih _ (fun hne => ?_) (hentries entry hentry hfits hdir)
      obtain ⟨name, node⟩ := entry
      obtain ⟨below, rfl⟩ := FileNode.isDirectory_iff.mp (hdir.resolve_left hne)
      exact ⟨below, hpath.child htree hentry⟩
    | anywhere =>
      refine select_anywhere_yields htree hpath (fun directory hmem => (hsearch directory hmem).1)
        (fun directory hmem => (hsearch directory hmem).2.2)
        fun directory hmem hleads => ih directory (fun _ => hleads) (hsearch directory hmem).2.1

/-! ## Searches that give a result -/

theorem canAsk_of_answer {path : Path} {test : Option FileNode → Bool} {answer : Bool}
    (h : (tree.find path).map test = .ok answer) : tree.CanAsk path := by
  obtain ⟨found, hfind, -⟩ := (Outcome.map_eq_ok _ _ _).mp h
  rw [CanAsk, hfind]
  rfl

end FileTree

end ScadAdvisor
