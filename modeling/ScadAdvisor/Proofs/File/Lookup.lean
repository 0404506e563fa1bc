import Mathlib.Data.List.Basic
import ScadAdvisor.File.Tree
import ScadAdvisor.Proofs.File.Order

/-! # What paths lead to

A path is followed name by name. In a tree whose names are those of real files, going down is the same
as picking entries.
-/

namespace ScadAdvisor

/-! ## Names -/

structure IsFileName (name : Text) : Prop where
  no_slash : '/' ∉ name
  no_null : '\x00' ∉ name
  not_up : name ≠ ['.', '.']
  short : Utf8.size name ≤ FileTree.maxNameSize

instance (name : Text) : Decidable (IsFileName name) :=
  decidable_of_iff ('/' ∉ name ∧ '\x00' ∉ name ∧ name ≠ ['.', '.'] ∧
      Utf8.size name ≤ FileTree.maxNameSize)
    ⟨fun ⟨h1, h2, h3, h4⟩ => ⟨h1, h2, h3, h4⟩, fun ⟨h1, h2, h3, h4⟩ => ⟨h1, h2, h3, h4⟩⟩

/-- The names below a node are those of files, and in each directory they differ. -/
inductive FileNode.IsProper : FileNode → Prop
  | file (bytes : List UInt8) : IsProper (.file bytes)
  | directory {children : List (Text × FileNode)} (nodup : (children.map (·.1)).Nodup)
      (names : ∀ entry ∈ children, IsFileName entry.1)
      (below : ∀ entry ∈ children, IsProper entry.2) : IsProper (.directory children)

namespace Path

/-- The path with further names. -/
def below (path : Path) (names : List Text) : Path := { path with parts := path.parts ++ names }

@[simp] theorem below_nil (path : Path) : path.below [] = path := by simp [below]

@[simp] theorem below_cons (path : Path) (name : Text) (names : List Text) :
    path.below (name :: names) = (path.child name).below names := by simp [below, child]

@[simp] theorem below_append (path : Path) (front back : List Text) :
    path.below (front ++ back) = (path.below front).below back := by simp [below]

@[simp] theorem foldl_child (path : Path) (names : List Text) : names.foldl child path = path.below names := by
  induction names generalizing path with
  | nil => simp
  | cons name names ih => rw [List.foldl_cons, ih, below_cons]

@[simp] theorem hasNull_child (path : Path) (name : Text) :
    (path.child name).hasNull = (path.hasNull || name.contains '\x00') := by
  simp [hasNull, child]

end Path

namespace FileNode

theorem child?_eq_some_iff {children : List (Text × FileNode)} (h : (children.map (·.1)).Nodup)
    (name : Text) (node : FileNode) : child? name children = some node ↔ (name, node) ∈ children := by
  induction children with
  | nil => simp [child?]
  | cons entry rest ih =>
    obtain ⟨first, other⟩ := entry
    obtain ⟨hfirst, hrest⟩ := List.nodup_cons.mp h
    rw [child?]
    split
    case isTrue heq =>
      rw [← beq_iff_eq.mp heq]
      have hnot : (first, node) ∉ rest := fun hmem => hfirst (List.mem_map.mpr ⟨_, hmem, rfl⟩)
      simp [hnot, eq_comm]
    case isFalse hne =>
      have hname : name ≠ first := fun heq => hne (beq_iff_eq.mpr heq.symm)
      simp [ih hrest, hname]

theorem isDirectory_iff {node : FileNode} :
    node.isDirectory = true ↔ ∃ children, node = .directory children := by
  cases node with
  | file bytes => simp [isDirectory]
  | directory children => simp [isDirectory]

theorem nil_mem_directories_iff (node : FileNode) :
    [] ∈ node.directories ↔ ∃ children, node = .directory children := by
  cases node with
  | file bytes => simp [directories]
  | directory children => simp [directories]

theorem mem_childDirectories_iff (children : List (Text × FileNode)) (names : List Text) :
    names ∈ childDirectories children ↔
      ∃ name node more, (name, node) ∈ children ∧ more ∈ node.directories ∧ names = name :: more := by
  induction children with
  | nil => simp [childDirectories]
  | cons entry rest ih =>
    obtain ⟨name, node⟩ := entry
    simp only [childDirectories, List.mem_append, List.mem_map, ih, List.mem_cons, Prod.mk.injEq]
    constructor
    · rintro (⟨more, hmore, rfl⟩ | ⟨name', node', more, hmem, hmore, rfl⟩)
      · exact ⟨name, node, more, .inl ⟨rfl, rfl⟩, hmore, rfl⟩
      · exact ⟨name', node', more, .inr hmem, hmore, rfl⟩
    · rintro ⟨name', node', more, ⟨rfl, rfl⟩ | hmem, hmore, rfl⟩
      · exact .inl ⟨more, hmore, rfl⟩
      · exact .inr ⟨name', node', more, hmem, hmore, rfl⟩

end FileNode

namespace FileTree

/-! ## Following a path -/

theorem walk_append (nodes : List FileNode) (front back : List Text) :
    walk nodes (front ++ back) = (do walk (← walk nodes front) back) := by
  induction front generalizing nodes with
  | nil => rw [List.nil_append, walk]; rfl
  | cons name rest ih =>
    match nodes with
    | [] => simp only [List.cons_append, walk]; rfl
    | .file _ :: _ => simp only [List.cons_append, walk]; rfl
    | .directory children :: above =>
      simp only [List.cons_append, walk]
      split_ifs
      · rfl
      · exact ih _
      · exact ih _
      · cases FileNode.child? name children with
        | none => rfl
        | some node => exact ih _

/-- What the first name of a path is looked up in, with the directories above it. -/
def start (tree : FileTree) (path : Path) : Except FileFault (List FileNode) :=
  if path.root.isEmpty then walk [tree.root] tree.cwd else .ok [tree.root]

def stack (tree : FileTree) (path : Path) : Except FileFault (List FileNode) := do
  walk (← tree.start path) path.parts

theorem stack_below (tree : FileTree) (path : Path) (names : List Text) :
    tree.stack (path.below names) = (do walk (← tree.stack path) names) := by
  have hstart : tree.start (path.below names) = tree.start path := rfl
  unfold stack
  rw [hstart]
  cases tree.start path with
  | error fault => rfl
  | ok nodes => exact walk_append nodes path.parts names

/-- The path leads to the node, unless it is too long to be looked up. -/
def LeadsTo (tree : FileTree) (path : Path) (node : FileNode) : Prop :=
  path.hasNull = false ∧ ∃ above, tree.stack path = .ok (node :: above)

variable {tree : FileTree} {path : Path}

theorem LeadsTo.unique {a b : FileNode} (ha : tree.LeadsTo path a) (hb : tree.LeadsTo path b) :
    a = b := by
  obtain ⟨-, above, ha⟩ := ha
  obtain ⟨-, other, hb⟩ := hb
  rw [ha] at hb
  cases hb
  rfl

theorem lookup_eq (tree : FileTree) (path : Path) :
    tree.lookup path =
      if Utf8.size path.toText > maxPathSize then .error .nameTooLong
      else (do
        match ← tree.stack path with
        | node :: _ => pure node
        | [] => throw .notFound) := by
  unfold lookup stack start
  by_cases hlong : Utf8.size path.toText > maxPathSize
  · simp only [hlong, if_true]
    rfl
  · simp only [hlong, if_false]
    split_ifs
    · cases walk [tree.root] tree.cwd <;> rfl
    · rfl

theorem lookup_eq_ok_iff (node : FileNode) :
    tree.lookup path = .ok node ↔
      Utf8.size path.toText ≤ maxPathSize ∧ ∃ above, tree.stack path = .ok (node :: above) := by
  rw [lookup_eq]
  split_ifs with hlong
  · simp [hlong]
  · cases hstack : tree.stack path with
    | error fault => simp [Bind.bind, Except.bind]
    | ok nodes =>
      cases nodes with
      | nil => simp [Bind.bind, Except.bind, throw, throwThe, MonadExceptOf.throw]
      | cons first above => simp [Bind.bind, Except.bind, pure, Except.pure]; omega

theorem find_eq_some_iff (node : FileNode) :
    tree.find path = .ok (some node) ↔
      tree.LeadsTo path node ∧ Utf8.size path.toText ≤ maxPathSize := by
  have hlookup : tree.lookup path = .ok node ↔ _ := lookup_eq_ok_iff node
  unfold find LeadsTo
  split_ifs with hnull
  · simp [hnull]
  · split
    case h_1 found hfound => rw [hfound] at hlookup; simp_all [and_comm]
    all_goals simp_all [and_comm]

def CanAsk (tree : FileTree) (path : Path) : Prop := (tree.find path).isOk = true
deriving Decidable

theorem CanAsk.exists_find (h : tree.CanAsk path) : ∃ found, tree.find path = .ok found := by
  unfold CanAsk at h
  cases hfind : tree.find path with
  | error fault => rw [hfind] at h; cases h
  | ok found => exact ⟨found, rfl⟩

theorem LeadsTo.find {node : FileNode} (h : tree.LeadsTo path node) (hask : tree.CanAsk path) :
    tree.find path = .ok (some node) := by
  refine (find_eq_some_iff node).mpr ⟨h, ?_⟩
  by_contra hlong
  have hfind : tree.find path = .error .nameTooLong := by
    simp [FileTree.find, h.1, lookup_eq, Nat.lt_of_not_le hlong]
  rw [CanAsk, hfind] at hask
  cases hask

theorem LeadsTo.entries {children : List (Text × FileNode)} (h : tree.LeadsTo path (.directory children))
    (hask : tree.CanAsk path) : tree.entries path = .ok children := by
  have hshort := ((find_eq_some_iff _).mp (h.find hask)).2
  simp [FileTree.entries, (lookup_eq_ok_iff _).mpr ⟨hshort, h.2⟩]
  rfl

theorem isFile_iff : tree.isFile path = .ok true ↔
    ∃ bytes, tree.find path = .ok (some (.file bytes)) := by
  unfold isFile
  cases tree.find path with
  | error fault => simp [Except.map]
  | ok found =>
    match found with
    | none | some (.file _) | some (.directory _) => simp [Except.map]

theorem isDirectory_iff : tree.isDirectory path = .ok true ↔
    ∃ children, tree.find path = .ok (some (.directory children)) := by
  unfold isDirectory
  cases tree.find path with
  | error fault => simp [Except.map]
  | ok found =>
    match found with
    | none | some (.file _) | some (.directory _) => simp [Except.map]

/-! ## Going down -/

theorem walk_directory {children : List (Text × FileNode)} {above : List FileNode} {name : Text}
    {node : FileNode} {rest : List Text} (hchildren : (FileNode.directory children).IsProper)
    (hmem : (name, node) ∈ children) :
    walk (.directory children :: above) (name :: rest) =
      walk (node :: .directory children :: above) rest := by
  cases hchildren with
  | directory nodup names below =>
    have hname : IsFileName name := names _ hmem
    rw [walk, if_neg (by have := hname.short; omega), if_neg (by simpa using hname.not_up),
      (FileNode.child?_eq_some_iff nodup name node).mpr hmem]

theorem exists_directory_of_walk {nodes found : List FileNode} {name : Text} {rest : List Text}
    (h : walk nodes (name :: rest) = .ok found) :
    ∃ children above, nodes = .directory children :: above := by
  match nodes with
  | [] => simp [walk] at h
  | .file _ :: _ => simp [walk] at h
  | .directory children :: above => exact ⟨children, above, rfl⟩

theorem walk_isProper {nodes found : List FileNode} {names : List Text}
    (hnodes : ∀ node ∈ nodes, node.IsProper) (h : walk nodes names = .ok found) :
    ∀ node ∈ found, node.IsProper := by
  induction names generalizing nodes with
  | nil =>
    rw [walk] at h
    cases h
    exact hnodes
  | cons name rest ih =>
    obtain ⟨children, above, rfl⟩ := exists_directory_of_walk h
    rw [walk] at h
    split_ifs at h with hlong hup hempty
    · exact ih (fun node hnode => hnodes node (by simp_all)) h
    · exact ih (fun node hnode => hnodes node (by simp [hnode])) h
    · split at h
      case h_2 => cases h
      case h_1 node hchild =>
        refine ih (fun other hother => ?_) h
        rcases List.mem_cons.mp hother with rfl | hother
        · cases hnodes _ List.mem_cons_self with
          | directory nodup names below =>
            exact below _ ((FileNode.child?_eq_some_iff nodup name other).mp hchild)
        · exact hnodes other hother

theorem LeadsTo.isProper {node : FileNode} (h : tree.LeadsTo path node) (htree : tree.root.IsProper) :
    node.IsProper := by
  obtain ⟨-, above, hstack⟩ := h
  have hroot : ∀ node ∈ [tree.root], node.IsProper := by simpa using htree
  have hstart : ∀ nodes, tree.start path = .ok nodes → ∀ node ∈ nodes, node.IsProper := by
    intro nodes hnodes
    unfold start at hnodes
    split_ifs at hnodes
    · exact walk_isProper hroot hnodes
    · cases hnodes
      exact hroot
  unfold stack at hstack
  cases h : tree.start path with
  | error fault => rw [h] at hstack; cases hstack
  | ok nodes =>
    rw [h] at hstack
    exact walk_isProper (hstart nodes h) hstack node List.mem_cons_self

theorem LeadsTo.child {children : List (Text × FileNode)} {name : Text} {node : FileNode}
    (h : tree.LeadsTo path (.directory children)) (htree : tree.root.IsProper)
    (hmem : (name, node) ∈ children) : tree.LeadsTo (path.child name) node := by
  have hproper := h.isProper htree
  obtain ⟨hnull, above, hstack⟩ := h
  refine ⟨?_, .directory children :: above, ?_⟩
  · cases hproper with
    | directory nodup names below =>
      simpa [hnull] using (names _ hmem).no_null
  · have hbelow := stack_below tree path [name]
    rw [Path.below_cons, Path.below_nil, hstack] at hbelow
    rw [hbelow]
    change walk (.directory children :: above) [name] = _
    rw [walk_directory hproper hmem, walk]

theorem LeadsTo.of_below {node : FileNode} {name : Text} {names : List Text}
    (h : tree.LeadsTo (path.below (name :: names)) node) :
    ∃ children, tree.LeadsTo path (.directory children) := by
  obtain ⟨hnull, above, hstack⟩ := h
  rw [stack_below] at hstack
  have hpath : path.hasNull = false := by
    simp only [Path.hasNull, Path.below, List.any_append, Bool.or_eq_false_iff] at hnull
    exact hnull.1
  cases hnodes : tree.stack path with
  | error fault => rw [hnodes] at hstack; cases hstack
  | ok nodes =>
    rw [hnodes] at hstack
    obtain ⟨children, above, rfl⟩ := exists_directory_of_walk hstack
    exact ⟨children, hpath, above, hnodes⟩

theorem LeadsTo.exists_of_below {node : FileNode} {names : List Text}
    (h : tree.LeadsTo (path.below names) node) : ∃ other, tree.LeadsTo path other := by
  cases names with
  | nil => exact ⟨node, by simpa using h⟩
  | cons name names =>
    obtain ⟨children, hpath⟩ := h.of_below
    exact ⟨_, hpath⟩

theorem LeadsTo.mem_entries {children : List (Text × FileNode)} {name : Text} {node : FileNode}
    (hchild : tree.LeadsTo (path.child name) node) (h : tree.LeadsTo path (.directory children))
    (htree : tree.root.IsProper) (hname : name ≠ ['.', '.']) : (name, node) ∈ children := by
  have hproper := h.isProper htree
  obtain ⟨-, above, hstack⟩ := h
  obtain ⟨-, others, hother⟩ := hchild
  have hbelow := stack_below tree path [name]
  rw [Path.below_cons, Path.below_nil, hother, hstack] at hbelow
  have hwalk : walk (.directory children :: above) [name] = .ok (node :: others) := hbelow.symm
  cases hproper with
  | directory nodup names below =>
    rw [walk, if_neg (show ¬(name == ['.', '.']) = true by simpa using hname)] at hwalk
    split_ifs at hwalk
    split at hwalk
    case h_2 => cases hwalk
    case h_1 found hfound =>
      rw [walk] at hwalk
      cases hwalk
      exact (FileNode.child?_eq_some_iff nodup name node).mp hfound

/-- The directories below a node are those that can be reached without a step up. -/
theorem LeadsTo.mem_directories_iff {node : FileNode} (h : tree.LeadsTo path node)
    (htree : tree.root.IsProper) (names : List Text) :
    names ∈ node.directories ↔
      (∃ children, tree.LeadsTo (path.below names) (.directory children)) ∧ ['.', '.'] ∉ names := by
  induction names generalizing path node with
  | nil =>
    simp only [FileNode.nil_mem_directories_iff, Path.below_nil, List.not_mem_nil, not_false_eq_true,
      and_true]
    constructor
    · rintro ⟨children, rfl⟩
      exact ⟨children, h⟩
    · rintro ⟨children, hchildren⟩
      exact ⟨children, h.unique hchildren⟩
  | cons name rest ih =>
    simp only [Path.below_cons, List.mem_cons, not_or]
    constructor
    · intro hmem
      cases node with
      | file bytes => simp [FileNode.directories] at hmem
      | directory children =>
        have hbelow : name :: rest ∈ FileNode.childDirectories children := by
          simpa [FileNode.directories] using hmem
        obtain ⟨first, child, more, hchild, hmore, heq⟩ :=
          (FileNode.mem_childDirectories_iff _ _).mp hbelow
        cases heq
        obtain ⟨hfurther, hup⟩ := (ih (h.child htree hchild)).mp hmore
        cases h.isProper htree with
        | directory nodup names below =>
          exact ⟨hfurther, (names _ hchild).not_up.symm, hup⟩
    · rintro ⟨⟨found, hfound⟩, hname, hup⟩
      obtain ⟨children, hchildren⟩ :=
        (show tree.LeadsTo (path.below (name :: rest)) _ by rwa [Path.below_cons]).of_below
      obtain ⟨child, hchild⟩ := hfound.exists_of_below
      have hentry := hchild.mem_entries hchildren htree (Ne.symm hname)
      have hrest := (ih hchild).mpr ⟨⟨found, hfound⟩, hup⟩
      rw [h.unique hchildren, FileNode.directories]
      exact List.mem_cons_of_mem _
        ((FileNode.mem_childDirectories_iff _ _).mpr ⟨name, child, rest, hentry, hrest, rfl⟩)

theorem LeadsTo.directories {node : FileNode} (h : tree.LeadsTo path node) (hask : tree.CanAsk path) :
    tree.directories path = node.directories.map path.below := by
  have hshort := ((find_eq_some_iff _).mp (h.find hask)).2
  simp only [FileTree.directories, (lookup_eq_ok_iff _).mpr ⟨hshort, h.2⟩, Path.foldl_child]

end FileTree

end ScadAdvisor
