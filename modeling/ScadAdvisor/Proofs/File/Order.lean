import Mathlib.Data.Char
import Mathlib.Data.List.Lex
import Mathlib.Data.List.TakeWhile
import ScadAdvisor.Proofs.Text
import ScadAdvisor.File.Path

/-! # The order of paths

Paths are compared name by name. The slashes in front of an absolute path count as a name, which no
other name can be.
-/

namespace ScadAdvisor

namespace Text

@[simp] theorem less_iff_lt (a b : Text) : less a b = true ↔ a < b := by
  induction a generalizing b with
  | nil => cases b <;> simp [less]
  | cons c cs ih =>
    cases b with
    | nil => simp [less]
    | cons d ds => simp [less, ih, List.cons_lt_cons_iff]

end Text

namespace Path

@[simp] theorem componentsLess_iff_lt (a b : List Text) : componentsLess a b = true ↔ a < b := by
  induction a generalizing b with
  | nil => cases b <;> simp [componentsLess]
  | cons x xs ih =>
    cases b with
    | nil => simp [componentsLess]
    | cons y ys => simp [componentsLess, ih, List.cons_lt_cons_iff]

@[simp] theorem less_iff_lt (p q : Path) : less p q = true ↔ p.components < q.components :=
  componentsLess_iff_lt _ _

theorem less_trans {p q r : Path} (hpq : less p q = true) (hqr : less q r = true) : less p r = true := by
  rw [less_iff_lt] at *
  exact lt_trans hpq hqr

theorem ne_of_less {p q : Path} (h : less p q = true) : p ≠ q := by
  rw [less_iff_lt] at h
  rintro rfl
  exact lt_irrefl _ h

/-! ## Paths that a text can be read as -/

/-- No name has a slash, and in front there are only slashes. -/
def IsProper (path : Path) : Prop :=
  (∀ c ∈ path.root, c = '/') ∧ ∀ name ∈ path.parts, '/' ∉ name

theorem IsProper.root_ne {p q : Path} (hp : p.IsProper) (hq : q.IsProper) (hroot : p.root ≠ [])
    {rest : List Text} : q.parts ≠ p.root :: rest := by
  intro h
  obtain ⟨c, cs, hcs⟩ := List.exists_cons_of_ne_nil hroot
  have hslash : c = '/' := hp.1 c (by simp [hcs])
  exact hq.2 p.root (by simp [h]) (by simp [hcs, hslash])

theorem components_inj {p q : Path} (hp : p.IsProper) (hq : q.IsProper)
    (h : p.components = q.components) : p = q := by
  obtain ⟨proot, pparts⟩ := p
  obtain ⟨qroot, qparts⟩ := q
  cases proot with
  | nil =>
    cases qroot with
    | nil => simpa [components] using h
    | cons c cs => exact absurd (by simpa [components] using h) (hq.root_ne hp (by simp))
  | cons c cs =>
    cases qroot with
    | nil => exact absurd (by simpa [components] using h.symm) (hp.root_ne hq (by simp))
    | cons d ds => simpa [components] using h

theorem less_trichotomy {p q : Path} (hp : p.IsProper) (hq : q.IsProper) :
    less p q = true ∨ p = q ∨ less q p = true := by
  rw [less_iff_lt, less_iff_lt]
  rcases lt_trichotomy p.components q.components with h | h | h
  · exact .inl h
  · exact .inr (.inl (components_inj hp hq h))
  · exact .inr (.inr h)

/-! ## Sorting -/

def Increasing (paths : List Path) : Prop := paths.Pairwise fun p q => less p q = true

theorem Increasing.nodup {paths : List Path} (h : Increasing paths) : paths.Nodup :=
  List.Pairwise.imp ne_of_less h

@[simp] theorem mem_insert (path q : Path) (paths : List Path) : q ∈ insert path paths ↔ q = path ∨ q ∈ paths := by
  induction paths with
  | nil => simp [insert]
  | cons p rest ih =>
    rw [insert]
    split
    case isTrue h => simp [beq_iff_eq.mp h]
    case isFalse =>
      split
      · simp
      · simp only [List.mem_cons, ih]
        exact or_left_comm

theorem Increasing.insert {path : Path} {paths : List Path} (h : Increasing paths)
    (hpath : path.IsProper) (hpaths : ∀ p ∈ paths, p.IsProper) : Increasing (insert path paths) := by
  induction paths with
  | nil => simp [Path.insert, Increasing]
  | cons p rest ih =>
    obtain ⟨hfirst, hrest⟩ := List.pairwise_cons.mp h
    rw [Path.insert]
    split
    case isTrue => exact h
    case isFalse hne =>
      split
      case isTrue hless =>
        refine List.pairwise_cons.mpr ⟨fun q hq => ?_, h⟩
        rcases List.mem_cons.mp hq with rfl | hq
        · exact hless
        · exact less_trans hless (hfirst q hq)
      case isFalse hless =>
        have hlater : less p path = true := by
          rcases less_trichotomy hpath (hpaths p (by simp)) with hlt | heq | hlt
          · exact absurd hlt hless
          · exact absurd (beq_iff_eq.mpr heq) hne
          · exact hlt
        refine List.pairwise_cons.mpr ⟨fun q hq => ?_, ih hrest fun q hq => hpaths q (by simp [hq])⟩
        rcases (mem_insert path q rest).mp hq with rfl | hq
        · exact hlater
        · exact hfirst q hq

@[simp] theorem mem_sorted (q : Path) (paths : List Path) : q ∈ sorted paths ↔ q ∈ paths := by
  induction paths with
  | nil => simp [sorted]
  | cons p rest ih =>
    change q ∈ insert p (sorted rest) ↔ _
    rw [mem_insert, ih, List.mem_cons]

theorem increasing_sorted {paths : List Path} (h : ∀ p ∈ paths, p.IsProper) :
    Increasing (sorted paths) := by
  induction paths with
  | nil => simp [sorted, Increasing]
  | cons p rest ih =>
    have hrest : ∀ q ∈ rest, q.IsProper := fun q hq => h q (by simp [hq])
    exact (ih hrest).insert (h p (by simp)) fun q hq => hrest q ((mem_sorted q rest).mp hq)

theorem Increasing.eq_of_mem_iff {ps qs : List Path} (hp : Increasing ps) (hq : Increasing qs)
    (h : ∀ p, p ∈ ps ↔ p ∈ qs) : ps = qs := by
  have hperm : ps.Perm qs := (List.perm_ext_iff_of_nodup hp.nodup hq.nodup).mpr h
  refine hperm.eq_of_pairwise (fun p q _ _ hpq hqp => ?_) hp hq
  exact absurd rfl (ne_of_less (less_trans hpq hqp))

end Path

end ScadAdvisor
