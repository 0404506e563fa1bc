import Mathlib.Data.List.Sort
import ScadAdvisor.Proofs.Deprecation
import ScadAdvisor.Proofs.Identifier

/-! # Where the parameter finder looks and what it finds

A search goes on behind what it has found, and so it can miss what begins earlier. The finder of old
parameter names misses nothing: an identifier has neither white space nor an equals sign, and one of
these two stands at each offset that a find takes up behind the name.
-/

namespace ScadAdvisor

namespace Text

/-! ## Searches that miss nothing -/

section

variable {α : Type} {r : Recogniser α}

/-- The recogniser finds this at offset `k` and takes up so many characters with it. -/
def TakesAt (r : Recogniser α) (before : Option Char) (text : Text) (k : Nat) (found : α)
    (taken : Nat) : Prop := r ((text.take k).getLast?.or before) (text.drop k) = some (found, taken)

@[simp] theorem takesAt_cons_iff (before : Option Char) (c : Char) (cs : Text) (k : Nat) (found : α)
    (taken : Nat) :
    TakesAt r before (c :: cs) (k + 1) found taken ↔ TakesAt r (some c) cs k found taken := by
  unfold TakesAt
  rw [List.take_succ_cons, List.getLast?_cons, List.drop_succ_cons]
  cases (cs.take k).getLast? <;> rfl

theorem mem_searchFrom_of_takesAt (skip : Nat) (before : Option Char) (pos : Nat) (text : Text)
    (k : Nat) (found : α) (taken : Nat) (hk : k < text.length)
    (h : TakesAt r before text k found taken) (hskip : skip ≤ k)
    (hfree : ∀ j < k, ∀ other n, TakesAt r before text j other n → j + n ≤ k) :
    (pos + k, found) ∈ searchFrom r skip before pos text := by
  -- The offset, seen from the next character on.
  have hnext : ∀ {skip pos : Nat} {before : Option Char} {c : Char} {cs : Text},
      (∀ k, k < cs.length → TakesAt r (some c) cs k found taken → skip ≤ k →
        (∀ j < k, ∀ other n, TakesAt r (some c) cs j other n → j + n ≤ k) →
        (pos + 1 + k, found) ∈ searchFrom r skip (some c) (pos + 1) cs) →
      ∀ k, k + 1 < (c :: cs).length → TakesAt r before (c :: cs) (k + 1) found taken → skip ≤ k →
        (∀ j < k + 1, ∀ other n, TakesAt r before (c :: cs) j other n → j + n ≤ k + 1) →
        (pos + (k + 1), found) ∈ searchFrom r skip (some c) (pos + 1) cs := by
    intro skip pos before c cs ih k hk h hskip hfree
    rw [← Nat.add_assoc, Nat.add_right_comm]
    apply ih k (by simpa using hk) ((takesAt_cons_iff _ _ _ _ _ _).mp h) hskip
    intro j hj other n hn
    have := hfree (j + 1) (by omega) other n ((takesAt_cons_iff _ _ _ _ _ _).mpr hn)
    omega
  fun_induction searchFrom r skip before pos text generalizing k with
  | case1 => simp at hk
  | case2 skip before pos c cs ih =>
    obtain ⟨k, rfl⟩ : ∃ m, k = m + 1 := ⟨k - 1, by omega⟩
    exact hnext ih k hk h (by omega) hfree
  | case3 before pos c cs here n hr ih =>
    rcases k with _ | k
    · have heq : some (here, n) = some (found, taken) := hr.symm.trans h
      cases heq
      exact List.mem_cons_self
    · have hbehind := hfree 0 (by omega) here n hr
      exact List.mem_cons_of_mem _ (hnext ih k hk h (by omega) hfree)
  | case4 before pos c cs hnone ih =>
    rcases k with _ | k
    · exact absurd (hnone.symm.trans h) (by simp)
    · exact hnext ih k hk h (by omega) hfree

/-- A search finds everything there is if no two finds overlap. -/
theorem mem_search_iff (text : Text)
    (hbound : ∀ k found taken, TakesAt r none text k found taken → k < text.length)
    (hapart : ∀ i j a b m n, TakesAt r none text i a m → TakesAt r none text j b n → i < j → i + m ≤ j)
    (k : Nat) (found : α) :
    (k, found) ∈ search r text ↔ ∃ taken, TakesAt r none text k found taken := by
  constructor
  · intro h
    obtain ⟨taken, hr⟩ := mem_search _ _ _ _ h
    refine ⟨taken, ?_⟩
    rw [TakesAt, Option.or_none]
    exact hr
  · rintro ⟨taken, h⟩
    have hmem := mem_searchFrom_of_takesAt 0 none 0 text k found taken (hbound _ _ _ h) h
      (Nat.zero_le k) fun j hj other n hn => hapart j k other found n taken hn h hj
    rwa [Nat.zero_add] at hmem

theorem searchFrom_increasing (skip : Nat) (before : Option Char) (pos : Nat) (text : Text) :
    (searchFrom r skip before pos text).Pairwise (·.1 < ·.1) := by
  fun_induction searchFrom r skip before pos text with
  | case1 => exact List.Pairwise.nil
  | case2 skip before pos c cs ih => exact ih
  | case3 before pos c cs here taken hr ih =>
    refine List.Pairwise.cons ?_ ih
    rintro ⟨p, found⟩ hmem
    obtain ⟨k, rfl, -⟩ := mem_searchFrom r _ _ _ _ p found hmem
    simp only
    omega
  | case4 before pos c cs hnone ih => exact ih

end

end Text

namespace Deprecation

/-! ## Names that are given a value -/

/-- The name stands at `start`, white space behind it, and behind that an equals sign at `stop`. -/
structure Assigns (text name : Text) (start stop : Nat) : Prop where
  stands : Text.slice text start (start + name.length) = name
  le : start + name.length ≤ stop
  spaces : ∀ c ∈ Text.slice text (start + name.length) stop, Ascii.isSpace c = true
  equals : text[stop]? = some '='

instance (text name : Text) (start stop : Nat) : Decidable (Assigns text name start stop) :=
  decidable_of_iff
    (Text.slice text start (start + name.length) = name ∧ start + name.length ≤ stop ∧
      (Text.slice text (start + name.length) stop).all Ascii.isSpace = true ∧ text[stop]? = some '=')
    ⟨fun ⟨stands, le, spaces, equals⟩ => ⟨stands, le, List.all_eq_true.mp spaces, equals⟩,
      fun ⟨stands, le, spaces, equals⟩ => ⟨stands, le, List.all_eq_true.mpr spaces, equals⟩⟩

namespace Assigns

variable {text name other : Text} {start stop i j : Nat}

theorem lt_length (h : Assigns text name start stop) : stop < text.length :=
  (List.getElem?_eq_some_iff.mp h.equals).1

theorem isContinue_behind (h : Assigns text name start stop) (hstart : start + name.length ≤ i)
    (hstop : i ≤ stop) (c : Char) (hc : text[i]? = some c) : Identifier.isContinue c = false := by
  obtain ⟨k, rfl⟩ := Nat.exists_eq_add_of_le hstart
  rcases Nat.lt_or_eq_of_le hstop with hlt | heq
  · apply Identifier.isContinue_of_isSpace
    apply h.spaces
    rw [List.mem_iff_getElem?]
    exact ⟨k, by rw [Text.getElem?_slice _ _ _ _ hlt, hc]⟩
  · rw [heq, h.equals] at hc
    cases hc
    decide +kernel

theorem not_reached (h : Assigns text name start stop) (hother : Assigns text other i j)
    (hid : isIdentifier other = true) (k : Nat) (hstart : start + name.length ≤ k) (hstop : k ≤ stop)
    (hi : i ≤ k) : i + other.length ≤ k := by
  by_contra hlt
  obtain ⟨c, hmem, hc⟩ := Text.exists_mem_of_slice _ _ _ _ hother.stands hi (by omega)
  have hcontinue := h.isContinue_behind hstart hstop c hc
  exact not_mem_of_isIdentifier c hcontinue other hid hmem

theorem stop_lt (h : Assigns text name start stop) (hlater : Assigns text name i j)
    (hid : isIdentifier name = true) (hlt : start < i) : stop < i := by
  by_contra hle
  have hpos := List.length_pos_iff.mpr (ne_nil_of_isIdentifier name hid)
  -- The later one has a character where the earlier one is over.
  rcases Nat.le_total i (start + name.length) with hi | hi
  · have := h.not_reached hlater hid _ (Nat.le_refl _) h.le hi
    omega
  · have := h.not_reached hlater hid i hi (by omega) (Nat.le_refl i)
    omega

theorem name_eq (h : Assigns text name start stop) (hother : Assigns text other start j)
    (hname : isIdentifier name = true) (hid : isIdentifier other = true) : name = other := by
  have hle := h.not_reached hother hid _ (Nat.le_refl _) h.le (by omega)
  have hge := hother.not_reached h hname _ (Nat.le_refl _) hother.le (by omega)
  have hlen : start + name.length = start + other.length := by omega
  rw [← h.stands, ← hother.stands, hlen]

end Assigns

/-! ## The finder of one name -/

theorem takesAt_parameterAt_iff (masked name : Text) (start taken : Nat) :
    Text.TakesAt (parameterAt name) none masked start () taken ↔
      isWordAt (masked.take start).getLast? ≠ isWordAt masked[start]? ∧
        ∃ stop, Assigns masked name start stop ∧ start + taken = stop + 1 := by
  unfold Text.TakesAt parameterAt
  simp only [Option.or_none, List.head?_drop, List.drop_drop]
  generalize hspaces : (masked.drop (start + name.length)).takeWhile Ascii.isSpace = spaces
  have hprefix : (masked.drop (start + name.length)).take spaces.length = spaces := by
    rw [← hspaces]
    exact (List.prefix_iff_eq_take.mp (List.takeWhile_prefix _)).symm
  constructor
  · intro h
    split at h
    · rename_i hname
      rw [Bool.and_eq_true, bne_iff_ne, List.isPrefixOf_iff_prefix, ← Text.slice_eq_iff_isPrefix] at hname
      split at h
      · rename_i hequals
        cases h
        refine ⟨hname.1, start + name.length + spaces.length, ⟨hname.2, by omega, ?_, ?_⟩, by omega⟩
        · rw [Text.slice, Nat.add_sub_cancel_left, hprefix, ← hspaces]
          exact List.all_eq_true.mp List.all_takeWhile
        · rw [Nat.add_assoc]
          exact eq_of_beq hequals
      · cases h
    · cases h
  · rintro ⟨hedge, stop, hassigns, htaken⟩
    have hstop := hassigns.lt_length
    have hle := hassigns.le
    have hlen : spaces.length = stop - (start + name.length) := by
      have hequals : masked[stop]?.any Ascii.isSpace = false := by
        rw [hassigns.equals]
        decide
      rw [← hspaces, Text.takeWhile_drop_eq_slice _ _ _ _ hle hassigns.spaces hequals,
        Text.length_slice _ _ _ hstop.le]
    rw [if_pos, if_pos]
    · congr 2
      omega
    · rw [hlen, ← Nat.add_assoc, Nat.add_sub_cancel' hle, hassigns.equals]
      rfl
    · rw [Bool.and_eq_true, bne_iff_ne, List.isPrefixOf_iff_prefix, ← Text.slice_eq_iff_isPrefix]
      exact ⟨hedge, hassigns.stands⟩

/-- The finder misses no place where an identifier is given a value at the edge of a word. -/
theorem mem_parameterUses_iff (masked name : Text) (start : Nat) (hid : isIdentifier name = true) :
    start ∈ parameterUses masked name ↔
      isWordAt (masked.take start).getLast? ≠ isWordAt masked[start]? ∧
        ∃ stop, Assigns masked name start stop := by
  have hmem : start ∈ parameterUses masked name ↔
      ∃ taken, Text.TakesAt (parameterAt name) none masked start () taken := by
    have hfound : start ∈ parameterUses masked name ↔
        (start, ()) ∈ Text.search (parameterAt name) masked := by
      simp only [parameterUses, List.mem_map, Prod.exists, exists_and_right, exists_eq_right]
      exact ⟨fun ⟨_, h⟩ => h, fun h => ⟨(), h⟩⟩
    rw [hfound, Text.mem_search_iff]
    · intro k _ taken h
      obtain ⟨-, stop, hassigns, -⟩ := (takesAt_parameterAt_iff _ _ _ _).mp h
      have hle := hassigns.le
      have hlt := hassigns.lt_length
      omega
    · intro i j _ _ m n hi hj hlt
      obtain ⟨-, stop, hassigns, hend⟩ := (takesAt_parameterAt_iff _ _ _ _).mp hi
      obtain ⟨-, _, hlater, -⟩ := (takesAt_parameterAt_iff _ _ _ _).mp hj
      have := hassigns.stop_lt hlater hid hlt
      omega
  rw [hmem]
  constructor
  · rintro ⟨taken, h⟩
    obtain ⟨hedge, stop, hassigns, -⟩ := (takesAt_parameterAt_iff _ _ _ _).mp h
    exact ⟨hedge, stop, hassigns⟩
  · rintro ⟨hedge, stop, hassigns⟩
    have hle := hassigns.le
    exact ⟨stop + 1 - start, (takesAt_parameterAt_iff _ _ _ _).mpr ⟨hedge, stop, hassigns, by omega⟩⟩

theorem parameterUses_increasing (masked name : Text) :
    (parameterUses masked name).Pairwise (· < ·) :=
  List.pairwise_map.mpr (Text.searchFrom_increasing 0 none 0 masked)

/-! ## Names in ASCII -/

def IsAsciiIdentifier (name : Text) : Prop :=
  isIdentifier name = true ∧ ∀ c ∈ name, c.toNat < 0x80

instance (name : Text) : Decidable (IsAsciiIdentifier name) :=
  decidable_of_iff (isIdentifier name = true ∧ name.all (·.toNat < 0x80) = true)
    (by simp [IsAsciiIdentifier])

/-- The name stands at `start`, not behind a letter, a digit or an underscore, and an equals sign
follows it, at once or behind white space. -/
def UsedAt (masked name : Text) (start : Nat) : Prop :=
  (start = 0 ∨ isWordAt masked[start - 1]? = false) ∧ ∃ stop < masked.length, Assigns masked name start stop

instance (masked name : Text) (start : Nat) : Decidable (UsedAt masked name start) :=
  inferInstanceAs (Decidable (_ ∧ _))

theorem isWordAt_before_iff (masked : Text) (start : Nat) (h : start ≤ masked.length) :
    isWordAt (masked.take start).getLast? = false ↔ start = 0 ∨ isWordAt masked[start - 1]? = false := by
  rw [List.getLast?_take]
  split
  · rename_i hzero
    simp [hzero, isWordAt]
  · rename_i hpos
    rw [List.getElem?_eq_getElem (by omega), Option.some_or]
    simp [hpos]

theorem IsAsciiIdentifier.isWord {name : Text} (h : IsAsciiIdentifier name) (c : Char) (hc : c ∈ name) :
    Ascii.isWord c = true := by
  rw [Ascii.isWord_eq_isContinue c (h.2 c hc), ← Bool.not_eq_false]
  intro hcontinue
  exact not_mem_of_isIdentifier c hcontinue name h.1 hc

theorem isWordAt_of_stands (masked name : Text) (start i : Nat) (hname : IsAsciiIdentifier name)
    (h : Text.slice masked start (start + name.length) = name) (hstart : start ≤ i)
    (hstop : i < start + name.length) : isWordAt masked[i]? = true := by
  obtain ⟨c, hmem, hc⟩ := Text.exists_mem_of_slice masked name start i h hstart hstop
  rw [hc]
  exact hname.isWord c hmem

theorem parameterUses_eq_filter (masked name : Text) (hname : IsAsciiIdentifier name) :
    parameterUses masked name = (List.range masked.length).filter (UsedAt masked name) := by
  have hpos := List.length_pos_iff.mpr (ne_nil_of_isIdentifier name hname.1)
  refine List.Pairwise.eq_of_mem_iff (parameterUses_increasing masked name)
    (List.pairwise_lt_range.filter _) ?_
  intro start
  rw [mem_parameterUses_iff masked name start hname.1, List.mem_filter, List.mem_range,
    decide_eq_true_eq, UsedAt]
  constructor
  · rintro ⟨hedge, stop, hassigns⟩
    have hle := hassigns.le
    have hlt := hassigns.lt_length
    have hword := isWordAt_of_stands masked name start start hname hassigns.stands (by omega) (by omega)
    rw [hword, ne_eq, Bool.not_eq_true, isWordAt_before_iff _ _ (by omega)] at hedge
    exact ⟨by omega, hedge, stop, hlt, hassigns⟩
  · rintro ⟨hlt, hedge, stop, -, hassigns⟩
    have hword := isWordAt_of_stands masked name start start hname hassigns.stands (by omega) (by omega)
    rw [← isWordAt_before_iff _ _ (by omega)] at hedge
    exact ⟨by simp [hedge, hword], stop, hassigns⟩

theorem UsedAt.apart {masked a b : Text} {i j : Nat} (h : UsedAt masked a i) (hother : UsedAt masked b j)
    (ha : IsAsciiIdentifier a) (hb : IsAsciiIdentifier b) :
    (a = b ∧ i = j) ∨ i + a.length ≤ j ∨ j + b.length ≤ i := by
  -- The one that begins later begins at the edge of a word.
  have hlater : ∀ {a b : Text} {i j : Nat}, IsAsciiIdentifier a → UsedAt masked a i → UsedAt masked b j →
      i < j → i + a.length ≤ j := by
    rintro a b i j ha ⟨-, stop, -, hassigns⟩ ⟨hedge, -⟩ hlt
    by_contra hinside
    have := isWordAt_of_stands masked a i (j - 1) ha hassigns.stands (by omega) (by omega)
    rcases hedge with rfl | hedge
    · omega
    · simp [hedge] at this
  rcases Nat.lt_trichotomy i j with hlt | rfl | hlt
  · exact Or.inr (Or.inl (hlater ha h hother hlt))
  · obtain ⟨-, _, -, hassigns⟩ := h
    obtain ⟨-, _, -, hothers⟩ := hother
    exact Or.inl ⟨hassigns.name_eq hothers ha.1 hb.1, rfl⟩
  · exact Or.inr (Or.inr (hlater hb hother h hlt))

/-! ## All names -/

/-- All uses of the old names in the order in which they are reported. -/
def uses (masked : Text) (renames : Table Text) : List (Text × Text × Nat) :=
  renames.flatMap fun (name, replacement) =>
    ((List.range masked.length).filter (UsedAt masked name)).map fun start => (name, replacement, start)

theorem mem_uses_iff (masked : Text) (renames : Table Text) (name replacement : Text) (start : Nat) :
    (name, replacement, start) ∈ uses masked renames ↔
      (name, replacement) ∈ renames ∧ start < masked.length ∧ UsedAt masked name start := by
  simp only [uses, List.mem_flatMap, List.mem_map, List.mem_filter, List.mem_range, decide_eq_true_eq,
    Prod.exists, Prod.mk.injEq]
  constructor
  · rintro ⟨_, _, hmem, _, hused, rfl, rfl, rfl⟩
    exact ⟨hmem, hused⟩
  · rintro ⟨hmem, hused⟩
    exact ⟨_, _, hmem, _, hused, rfl, rfl, rfl⟩

theorem uses_apart (masked : Text) (renames : Table Text) (hkeys : renames.keys.Nodup)
    (hascii : ∀ name ∈ renames.keys, IsAsciiIdentifier name) :
    (uses masked renames).Pairwise fun (a, _, i) (b, _, j) => i + a.length ≤ j ∨ j + b.length ≤ i := by
  have hname : ∀ rename ∈ renames, IsAsciiIdentifier rename.1 :=
    fun rename hmem => hascii _ (List.mem_map_of_mem hmem)
  refine List.pairwise_flatMap.mpr ⟨?_, ?_⟩
  · rintro ⟨name, replacement⟩ hmem
    refine List.pairwise_map.mpr ((List.pairwise_lt_range.filter _).imp_of_mem ?_)
    intro i j hi hj hlt
    have hi := of_decide_eq_true (List.mem_filter.mp hi).2
    have hj := of_decide_eq_true (List.mem_filter.mp hj).2
    rcases hi.apart hj (hname _ hmem) (hname _ hmem) with ⟨-, rfl⟩ | hapart
    · exact absurd hlt (Nat.lt_irrefl i)
    · exact hapart
  · refine (List.pairwise_map.mp hkeys).imp_of_mem ?_
    rintro ⟨a, _⟩ ⟨b, _⟩ ha hb hne u hu v hv
    obtain ⟨i, hi, rfl⟩ := List.mem_map.mp hu
    obtain ⟨j, hj, rfl⟩ := List.mem_map.mp hv
    have hi := of_decide_eq_true (List.mem_filter.mp hi).2
    have hj := of_decide_eq_true (List.mem_filter.mp hj).2
    rcases hi.apart hj (hname _ ha) (hname _ hb) with ⟨heq, -⟩ | hapart
    · exact absurd heq hne
    · exact hapart

theorem mapM_id_map {ε α β γ : Type} (f : α → Except ε β) (view : β → γ) (content : α → γ)
    (items : List α) (h : ∀ a ∈ items, ∃ b, f a = .ok b ∧ view b = content a) :
    ∃ all, (items.map f).mapM id = .ok all ∧ all.map view = items.map content := by
  induction items with
  | nil => exact ⟨[], rfl, rfl⟩
  | cons item rest ih =>
    obtain ⟨b, hb, hview⟩ := h item (by simp)
    obtain ⟨others, hothers, hviews⟩ := ih fun a ha => h a (by simp [ha])
    refine ⟨b :: others, ?_, by rw [List.map_cons, List.map_cons, hview, hviews]⟩
    rw [List.map_cons, List.mapM_cons, hb, hothers]
    rfl

def report : Text × Text × Nat → Kind × Code × Nat × Nat × Text × Option Text
  | (name, replacement, start) =>
    (.deprecation, .deprecatedParameter, start, start + name.length, parameterMessage name replacement,
      some replacement)

theorem findParameters_eq_mapM (masked : Text) (renames : Table Text)
    (hascii : ∀ name ∈ renames.keys, IsAsciiIdentifier name) :
    findParameters masked renames =
      ((uses masked renames).map fun u => parameterDiagnostic u.1 u.2.1 u.2.2).mapM id := by
  unfold findParameters uses
  rw [List.map_flatMap]
  congr 1
  apply List.flatMap_congr
  rintro ⟨name, replacement⟩ hmem
  simp only [List.map_map]
  rw [parameterUses_eq_filter masked name (hascii _ (List.mem_map_of_mem hmem))]
  rfl

/-- With old names in ASCII the finder reports all their uses and nothing else, name by name in the
order of the table and from left to right, and no two of the reported spans overlap. -/
theorem findParameters_eq_uses (masked : Text) (renames : Table Text) (hkeys : renames.keys.Nodup)
    (hascii : ∀ name ∈ renames.keys, IsAsciiIdentifier name) :
    ∃ found, findParameters masked renames = .ok found ∧
      found.map (fun d => (d.kind, d.code, d.start, d.stop, d.message, d.replacement)) =
        (uses masked renames).map report ∧
      found.Pairwise fun d e => d.stop ≤ e.start ∨ e.stop ≤ d.start := by
  have hreport : ∀ u ∈ uses masked renames, ∃ d, parameterDiagnostic u.1 u.2.1 u.2.2 = .ok d ∧
      (d.kind, d.code, d.start, d.stop, d.message, d.replacement) = report u := by
    rintro ⟨name, replacement, start⟩ hmem
    have hname := hascii name (List.mem_map_of_mem ((mem_uses_iff _ _ _ _ _).mp hmem).1)
    have hpos := List.length_pos_iff.mpr (ne_nil_of_isIdentifier name hname.1)
    exact ⟨_, Diagnostic.ofSpan_eq_ok _ _ _ _ _ _ (Nat.lt_add_of_pos_right hpos), rfl⟩
  obtain ⟨found, hfound, hcontent⟩ := mapM_id_map _ _ _ _ hreport
  refine ⟨found, (findParameters_eq_mapM masked renames hascii).trans hfound, hcontent, ?_⟩
  -- The offsets of the diagnostics are those of the uses.
  have hspans : ((uses masked renames).map report).Pairwise
      fun (_, _, start, stop, _) (_, _, start', stop', _) => stop ≤ start' ∨ stop' ≤ start :=
    List.pairwise_map.mpr (uses_apart masked renames hkeys hascii)
  rw [← hcontent] at hspans
  exact List.pairwise_map.mp hspans

/-- One old name begins another one and ends a third one, and a line break stands before an equals
sign. -/
theorem uses_of_overlapping_names :
    let renames : Table Text := [("r".toList, "radius".toList), ("rx".toList, "x".toList),
      ("xr".toList, "y".toList)]
    let masked := "f(r=1, rx =2, xr\n=3, 2r=4, r==r, r = r=5)".toList
    uses masked renames = [("r".toList, "radius".toList, 2), ("r".toList, "radius".toList, 27),
        ("r".toList, "radius".toList, 33), ("r".toList, "radius".toList, 37),
        ("rx".toList, "x".toList, 7), ("xr".toList, "y".toList, 14)] ∧
      ∃ found, findParameters masked renames = .ok found ∧
        found.map (fun d => (d.kind, d.code, d.start, d.stop, d.message, d.replacement)) =
          (uses masked renames).map report ∧
        found.Pairwise fun d e => d.stop ≤ e.start ∨ e.stop ≤ d.start := by
  intro renames masked
  have hascii : ∀ name ∈ renames.keys, IsAsciiIdentifier name := by
    decide +kernel
  exact ⟨by decide +kernel, findParameters_eq_uses masked renames (by decide) hascii⟩

end Deprecation

end ScadAdvisor
