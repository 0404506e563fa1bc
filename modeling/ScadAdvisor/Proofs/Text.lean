import Mathlib.Data.List.Forall2
import ScadAdvisor.Text.Basic

/-! # Stretches of a text, blanked texts and lines -/

namespace ScadAdvisor.Text

/-! ## Stretches -/

theorem slice_eq_iff_isPrefix (text word : Text) (start : Nat) :
    slice text start (start + word.length) = word ↔ word <+: text.drop start := by
  unfold slice
  rw [Nat.add_sub_cancel_left, List.prefix_iff_eq_take, eq_comm]

theorem slice_of_isPrefix (text word : Text) (start : Nat) (h : word <+: text.drop start) :
    slice text start (start + word.length) = word := (slice_eq_iff_isPrefix text word start).mpr h

theorem getElem?_slice (text : Text) (start stop i : Nat) (h : start + i < stop) :
    (slice text start stop)[i]? = text[start + i]? := by
  unfold slice
  rw [List.getElem?_take_of_lt (by omega), List.getElem?_drop]

theorem exists_mem_of_slice (text word : Text) (start i : Nat)
    (h : slice text start (start + word.length) = word) (hstart : start ≤ i)
    (hstop : i < start + word.length) : ∃ c ∈ word, text[i]? = some c := by
  obtain ⟨k, rfl⟩ := Nat.exists_eq_add_of_le hstart
  have hk : k < word.length := by omega
  refine ⟨word[k], List.getElem_mem hk, ?_⟩
  rw [← getElem?_slice text start _ k hstop, h, List.getElem?_eq_getElem hk]

theorem le_length_of_slice (text word : Text) (start : Nat) (hword : word ≠ [])
    (h : slice text start (start + word.length) = word) : start + word.length ≤ text.length := by
  have hlen := congrArg List.length h
  have hpos := List.length_pos_iff.mpr hword
  simp only [slice, List.length_take, List.length_drop] at hlen
  omega

@[simp] theorem length_slice (text : Text) (start stop : Nat) (h : stop ≤ text.length) :
    (slice text start stop).length = stop - start := by
  simp only [slice, List.length_take, List.length_drop]
  omega

theorem drop_succ_of_drop_eq_cons {text rest : Text} {c : Char} {pos : Nat}
    (h : text.drop pos = c :: rest) : text.drop (pos + 1) = rest := by
  rw [← List.tail_drop, h, List.tail_cons]

theorem drop_eq_slice_append (text : Text) (start stop : Nat) (h : start ≤ stop) :
    text.drop start = slice text start stop ++ text.drop stop := by
  conv => lhs; rw [← List.take_append_drop (stop - start) (text.drop start)]
  rw [List.drop_drop, Nat.add_sub_cancel' h, slice]

theorem slice_append_left (front back : Text) (start stop : Nat) (h : stop ≤ front.length) :
    slice (front ++ back) start stop = slice front start stop := by
  unfold slice
  rcases Nat.le_total start front.length with hs | hs
  · rw [List.drop_append_of_le_length hs, List.take_append_of_le_length (by simp; omega)]
  · rw [Nat.sub_eq_zero_of_le (Nat.le_trans h hs), List.take_zero, List.take_zero]

theorem slice_append_right (front back : Text) (start stop : Nat) :
    slice (front ++ back) (front.length + start) (front.length + stop) = slice back start stop := by
  unfold slice
  rw [List.drop_append, List.drop_eq_nil_of_le (by omega), List.nil_append,
    Nat.add_sub_cancel_left, Nat.add_sub_add_left]

@[simp] theorem drop_takeWhile_length (p : Char → Bool) (text : Text) :
    text.drop (text.takeWhile p).length = text.dropWhile p := by
  have h : (text.takeWhile p ++ text.dropWhile p).drop (text.takeWhile p).length = text.dropWhile p :=
    List.drop_left
  rwa [List.takeWhile_append_dropWhile] at h

theorem takeWhile_drop_eq_slice (p : Char → Bool) (text : Text) (start stop : Nat) (h : start ≤ stop)
    (hall : ∀ c ∈ slice text start stop, p c = true) (hstop : text[stop]?.any p = false) :
    (text.drop start).takeWhile p = slice text start stop := by
  rw [drop_eq_slice_append text start stop h, List.takeWhile_append_of_pos hall]
  cases hrest : text.drop stop with
  | nil => simp
  | cons c rest =>
    rw [← List.head?_drop, hrest] at hstop
    rw [List.takeWhile_cons_of_neg (by simpa using hstop), List.append_nil]

/-! ## Pairs of characters -/

theorem pair_isPrefix_iff (a b c : Char) (rest : Text) :
    [a, b] <+: c :: rest ↔ (c == a && rest.head? == some b) = true := by
  cases rest with
  | nil => simp [List.cons_prefix_cons]
  | cons d ds =>
    rw [List.cons_prefix_cons, List.cons_prefix_cons, List.head?_cons, Bool.and_eq_true, beq_iff_eq,
      beq_iff_eq, Option.some.injEq, @eq_comm _ a c, @eq_comm _ b d]
    simp only [List.nil_prefix, and_true]

theorem findPair_split (a b : Char) (text : Text) (n : Nat) (h : findPair a b text = some n) :
    text = text.take n ++ a :: b :: text.drop (n + 2) := by
  induction text generalizing n with
  | nil => simp [findPair] at h
  | cons c cs ih =>
    rw [findPair] at h
    split at h
    · rename_i hc
      cases h
      rw [← pair_isPrefix_iff] at hc
      obtain ⟨rest, hrest⟩ := hc
      cases hrest
      rfl
    · obtain ⟨m, hm, rfl⟩ := Option.map_eq_some_iff.mp h
      conv => lhs; rw [ih m hm]
      rfl

theorem findPair_lt (a b : Char) (text : Text) (n : Nat) (h : findPair a b text = some n) :
    n + 2 ≤ text.length := by
  have hlen := congrArg List.length (findPair_split a b text n h)
  simp only [List.length_append, List.length_cons, List.length_take, List.length_drop] at hlen
  omega

theorem findPair_eq_none_iff (a b : Char) (text : Text) :
    findPair a b text = none ↔ ∀ i, ¬ [a, b] <+: text.drop i := by
  induction text with
  | nil => simp [findPair]
  | cons c cs ih =>
    rw [findPair]
    by_cases hc : [a, b] <+: c :: cs
    · rw [if_pos ((pair_isPrefix_iff a b c cs).mp hc)]
      constructor
      · intro h
        cases h
      · intro h
        exact absurd hc (h 0)
    · rw [if_neg (mt (pair_isPrefix_iff a b c cs).mpr hc), Option.map_eq_none_iff, ih]
      constructor
      · intro h i
        cases i with
        | zero => exact hc
        | succ i => exact h i
      · intro h i
        exact h (i + 1)

/-- What is found is the first place where the pair stands. -/
theorem findPair_eq_some_iff (a b : Char) (text : Text) (n : Nat) :
    findPair a b text = some n ↔ [a, b] <+: text.drop n ∧ ∀ i < n, ¬ [a, b] <+: text.drop i := by
  induction text generalizing n with
  | nil => simp [findPair]
  | cons c cs ih =>
    rw [findPair]
    by_cases hc : [a, b] <+: c :: cs
    · rw [if_pos ((pair_isPrefix_iff a b c cs).mp hc)]
      constructor
      · intro h
        cases h
        exact ⟨hc, by simp⟩
      · rintro ⟨-, hfirst⟩
        cases n with
        | zero => rfl
        | succ n => exact absurd hc (hfirst 0 (Nat.succ_pos n))
    · rw [if_neg (mt (pair_isPrefix_iff a b c cs).mpr hc), Option.map_eq_some_iff]
      constructor
      · rintro ⟨m, hm, rfl⟩
        obtain ⟨hpair, hfirst⟩ := (ih m).mp hm
        refine ⟨hpair, ?_⟩
        intro i hi
        cases i with
        | zero => exact hc
        | succ i => exact hfirst i (Nat.lt_of_succ_lt_succ hi)
      · rintro ⟨hpair, hfirst⟩
        cases n with
        | zero => exact absurd hpair hc
        | succ n =>
          refine ⟨n, (ih n).mpr ⟨hpair, ?_⟩, rfl⟩
          intro i hi
          exact hfirst (i + 1) (Nat.succ_lt_succ hi)

/-- A pair stands in one part or the other unless it stands across the border. -/
theorem findPair_append (a b : Char) (front back : Text)
    (h : ¬ (front.getLast? = some a ∧ back.head? = some b)) :
    findPair a b (front ++ back) = (findPair a b front).or ((findPair a b back).map (· + front.length)) := by
  induction front with
  | nil => simp [findPair]
  | cons c cs ih =>
    rw [List.cons_append, findPair, findPair]
    cases cs with
    | nil =>
      have hc : ¬ (c == a && back.head? == some b) = true := by simpa using h
      simp [hc, findPair]
    | cons d ds =>
      have hrest := ih (by simpa using h)
      rw [hrest, List.cons_append, List.head?_cons, List.head?_cons]
      by_cases hc : (c == a && some d == some b) = true
      · rw [if_pos hc, if_pos hc, Option.some_or]
      · rw [if_neg hc, if_neg hc, Option.map_or, Option.map_map]
        rfl

theorem findPair_append_stop (a b stop : Char) (front back : Text) (ha : stop ≠ a) (hb : stop ≠ b)
    (hfront : findPair a b front = none) (hback : findPair a b back = none) :
    findPair a b (front ++ stop :: back) = none := by
  have hstop : ¬ (stop == a && back.head? == some b) = true := by simp [ha]
  rw [findPair_append _ _ _ _ (by simp [hb]), hfront, findPair, if_neg hstop, hback]
  rfl

theorem findPair_append_of_some (a b : Char) (front back : Text) (n : Nat)
    (h : findPair a b front = some n) : findPair a b (front ++ back) = some n := by
  have hlen := findPair_lt a b front n h
  rw [findPair_eq_some_iff] at h ⊢
  have hdrop : ∀ i ≤ n, ([a, b] <+: (front ++ back).drop i ↔ [a, b] <+: front.drop i) := by
    intro i hi
    rw [List.drop_append_of_le_length (by omega)]
    constructor
    · intro hpair
      exact List.prefix_of_prefix_length_le hpair (List.prefix_append _ _) (by simp; omega)
    · intro hpair
      exact hpair.trans (List.prefix_append _ _)
  exact ⟨(hdrop n (Nat.le_refl n)).mpr h.1, fun i hi => mt (hdrop i (Nat.le_of_lt hi)).mp (h.2 i hi)⟩

theorem isPrefix_drop_of_take (word text : Text) (i n : Nat) (h : word <+: (text.take n).drop i) :
    word <+: text.drop i := by
  rw [List.drop_take] at h
  exact h.trans (List.take_prefix _ _)

theorem findPair_take_of_none (a b : Char) (text : Text) (n : Nat) (h : findPair a b text = none) :
    findPair a b (text.take n) = none := by
  rw [findPair_eq_none_iff] at h ⊢
  intro i hi
  exact h i (isPrefix_drop_of_take _ _ _ _ hi)

theorem findPair_of_not_mem (a b : Char) (text : Text) (h : a ∉ text) : findPair a b text = none := by
  rw [findPair_eq_none_iff]
  intro i hi
  exact h (List.mem_of_mem_drop (hi.subset List.mem_cons_self))

theorem findPair_take_of_some (a b : Char) (text : Text) (n : Nat) (h : findPair a b text = some n) :
    findPair a b (text.take (n + 1)) = none := by
  rw [findPair_eq_some_iff] at h
  rw [findPair_eq_none_iff]
  intro i hi
  have hlen := hi.length_le
  simp only [List.length_cons, List.length_nil, List.length_drop, List.length_take] at hlen
  exact h.2 i (by omega) (isPrefix_drop_of_take _ _ _ _ hi)

theorem take_succ_of_findPair (a b : Char) (text : Text) (n : Nat) (h : findPair a b text = some n) :
    text.take n ++ [a] = text.take (n + 1) := by
  obtain ⟨rest, hrest⟩ := ((findPair_eq_some_iff a b text n).mp h).1
  rw [List.take_add_one, ← List.head?_drop, ← hrest]
  rfl

/-- A line ends with its text or before a newline, and no pair reaches over that. -/
theorem findPair_append_end (a b : Char) (line : Text) (next : Option Char)
    (hnext : ∀ c ∈ next, c = '\n') (hb : b ≠ '\n') :
    findPair a b (line ++ next.toList) = findPair a b line := by
  cases next with
  | none => rw [Option.toList_none, List.append_nil]
  | some c =>
    obtain rfl : c = '\n' := hnext c rfl
    rw [Option.toList_some, findPair_append a b _ _ (by simp [Ne.symm hb])]
    simp [findPair]

@[simp] theorem length_blank (n : Nat) : (blank n).length = n := List.length_replicate

theorem blank_add (m n : Nat) : blank (m + n) = blank m ++ blank n := List.replicate_add m n ' '

@[simp] theorem findPair_blank (a b : Char) (n : Nat) (h : a ≠ ' ') : findPair a b (blank n) = none := by
  apply findPair_of_not_mem
  exact fun hmem => h (List.eq_of_mem_replicate hmem)

@[simp] theorem getLast?_blank_ne (n : Nat) (c : Char) (h : c ≠ ' ') : (blank n).getLast? ≠ some c := by
  rw [blank, List.getLast?_replicate]
  split
  · simp
  · simpa using Ne.symm h

@[simp] theorem head?_blank_ne (n : Nat) (c : Char) (h : c ≠ ' ') : (blank n).head? ≠ some c := by
  rw [blank, List.head?_replicate]
  split
  · simp
  · simpa using Ne.symm h

/-! ## Blanked texts -/

/-- `image` is `text` with spaces in the place of some of its characters. Nothing has moved. -/
def Blanking (text image : Text) : Prop := List.Forall₂ (fun c d => d = c ∨ d = ' ') text image

namespace Blanking

theorem refl (text : Text) : Blanking text text := List.forall₂_same.mpr fun _ _ => Or.inl rfl

theorem length_eq {text image : Text} (h : Blanking text image) : image.length = text.length :=
  (List.Forall₂.length_eq h).symm

theorem append {a b a' b' : Text} (ha : Blanking a a') (hb : Blanking b b') :
    Blanking (a ++ b) (a' ++ b') := List.rel_append ha hb

theorem trans {text middle image : Text} (h : Blanking text middle) (h' : Blanking middle image) :
    Blanking text image := by
  unfold Blanking at h
  induction h generalizing image with
  | nil => exact h'
  | cons hcd _ ih =>
    obtain ⟨e, rest, he, hrest, rfl⟩ := List.forall₂_cons_left_iff.mp h'
    refine List.Forall₂.cons ?_ (ih hrest)
    rcases he with rfl | rfl
    · exact hcd
    · exact Or.inr rfl

theorem blank (text : Text) : Blanking text (Text.blank text.length) := by
  induction text with
  | nil => exact List.Forall₂.nil
  | cons c cs ih => exact List.Forall₂.cons (Or.inr rfl) ih

theorem blank_middle (text : Text) (start n : Nat) (h : start + n ≤ text.length) :
    Blanking text (text.take start ++ Text.blank n ++ text.drop (start + n)) := by
  have hmid : Blanking ((text.drop start).take n) (Text.blank n) := by
    have hlen : ((text.drop start).take n).length = n := by simp; omega
    simpa only [hlen] using blank ((text.drop start).take n)
  have hsplit : text.take start ++ (text.drop start).take n ++ text.drop (start + n) = text := by
    rw [← List.drop_drop, List.append_assoc, List.take_append_drop, List.take_append_drop]
  have h := ((refl (text.take start)).append hmid).append (refl (text.drop (start + n)))
  rwa [hsplit] at h

theorem mem_of_ne_space {text image : Text} (h : Blanking text image) (c : Char) (hc : c ≠ ' ')
    (hmem : c ∈ image) : c ∈ text := by
  unfold Blanking at h
  induction h with
  | nil => exact hmem
  | cons hcd _ ih =>
    rcases List.mem_cons.mp hmem with rfl | hmem
    · rcases hcd with rfl | hspace
      · exact List.mem_cons_self
      · exact absurd hspace hc
    · exact List.mem_cons_of_mem _ (ih hmem)

theorem getElem?_eq {text image : Text} (h : Blanking text image) (i : Nat) :
    image[i]? = text[i]? ∨ image[i]? = some ' ' := by
  unfold Blanking at h
  induction h generalizing i with
  | nil => exact Or.inl rfl
  | cons hcd _ ih =>
    cases i with
    | zero => simpa using hcd
    | succ i => exact ih i

theorem slice {text image : Text} (h : Blanking text image) (start stop : Nat) :
    Blanking (Text.slice text start stop) (Text.slice image start stop) :=
  List.forall₂_take _ (List.forall₂_drop _ h)

theorem eq_of_no_space {text image : Text} (h : Blanking text image) (hs : ' ' ∉ image) :
    text = image := by
  unfold Blanking at h
  induction h with
  | nil => rfl
  | cons hcd _ ih =>
    rw [List.mem_cons, not_or] at hs
    rcases hcd with rfl | rfl
    · rw [ih hs.2]
    · exact absurd rfl hs.1

/-- A word without spaces that stands in the image stands at the same place in the text. -/
theorem slice_eq {text image word : Text} {start stop : Nat} (h : Blanking text image)
    (hword : Text.slice image start stop = word) (hs : ' ' ∉ word) :
    Text.slice text start stop = word := by
  subst hword
  exact (h.slice start stop).eq_of_no_space hs

end Blanking

theorem no_space_of_isWord (word : Text) (h : ∀ c ∈ word, Ascii.isWord c = true) : ' ' ∉ word := by
  intro hmem
  have := h ' ' hmem
  simp [Ascii.isWord, Ascii.isLetter, Ascii.isDigit] at this

/-! ## Lines -/

theorem splitOn_ne_nil (sep : Char) (text : Text) : splitOn sep text ≠ [] := by
  induction text with
  | nil => simp [splitOn]
  | cons c cs ih =>
    rw [splitOn]
    split
    · simp
    · split <;> simp

theorem join_cons_of_ne_nil (sep piece : Text) (rest : List Text) (h : rest ≠ []) :
    join sep (piece :: rest) = piece ++ sep ++ join sep rest := by
  cases rest with
  | nil => exact absurd rfl h
  | cons _ _ => rfl

@[simp] theorem join_splitOn (sep : Char) (text : Text) : join [sep] (splitOn sep text) = text := by
  induction text with
  | nil => rfl
  | cons c cs ih =>
    rw [splitOn]
    split
    · rename_i h
      exact absurd h (splitOn_ne_nil sep cs)
    · rename_i piece rest h
      rw [h] at ih
      split
      · rename_i hc
        rw [join_cons_of_ne_nil _ _ _ (by simp), ih, eq_of_beq hc]
        rfl
      · -- The character goes in front of the first piece, whatever follows that.
        rw [← ih]
        cases rest <;> rfl

@[simp] theorem join_lines (text : Text) : join ['\n'] text.lines = text := join_splitOn '\n' text

@[simp] theorem splitOn_cons_of_ne (sep c : Char) (cs piece : Text) (rest : List Text) (hc : c ≠ sep)
    (h : splitOn sep cs = piece :: rest) : splitOn sep (c :: cs) = (c :: piece) :: rest := by
  simp [splitOn, h, hc]

@[simp] theorem splitOn_cons_self (sep : Char) (cs : Text) : splitOn sep (sep :: cs) = [] :: splitOn sep cs := by
  obtain ⟨piece, rest, h⟩ := List.exists_cons_of_ne_nil (splitOn_ne_nil sep cs)
  simp [splitOn, h]

theorem sep_not_mem_of_mem_splitOn (sep : Char) (text piece : Text) (h : piece ∈ splitOn sep text) :
    sep ∉ piece := by
  induction text generalizing piece with
  | nil => simp_all [splitOn]
  | cons c cs ih =>
    by_cases hc : c = sep
    · rw [hc, splitOn_cons_self] at h
      rcases List.mem_cons.mp h with rfl | h
      · simp
      · exact ih piece h
    · obtain ⟨first, rest, hfirst⟩ := List.exists_cons_of_ne_nil (splitOn_ne_nil sep cs)
      rw [splitOn_cons_of_ne sep c cs first rest hc hfirst] at h
      rw [hfirst] at ih
      rcases List.mem_cons.mp h with rfl | h
      · have := ih first (by simp)
        simp [this, Ne.symm hc]
      · exact ih piece (by simp [h])

theorem splitOn_of_not_mem (sep : Char) (text : Text) (h : sep ∉ text) : splitOn sep text = [text] := by
  induction text with
  | nil => rfl
  | cons c cs ih =>
    rw [List.mem_cons, not_or] at h
    exact splitOn_cons_of_ne sep c cs cs [] (Ne.symm h.1) (ih h.2)

theorem splitOn_append (sep : Char) (front : Text) :
    ∃ pieces last, splitOn sep front = pieces ++ [last] ∧
      ∀ back first rest, splitOn sep back = first :: rest →
        splitOn sep (front ++ back) = pieces ++ (last ++ first) :: rest := by
  induction front with
  | nil => exact ⟨[], [], rfl, fun back first rest h => h⟩
  | cons c cs ih =>
    obtain ⟨pieces, last, hcs, happend⟩ := ih
    by_cases hc : c = sep
    · refine ⟨[] :: pieces, last, by rw [hc, splitOn_cons_self, hcs]; rfl, ?_⟩
      intro back first rest h
      rw [hc, List.cons_append, splitOn_cons_self, happend back first rest h]
      rfl
    · cases pieces with
      | nil =>
        refine ⟨[], c :: last, splitOn_cons_of_ne sep c cs last [] hc hcs, ?_⟩
        intro back first rest h
        exact splitOn_cons_of_ne sep c (cs ++ back) (last ++ first) rest hc (happend back first rest h)
      | cons piece pieces =>
        refine ⟨(c :: piece) :: pieces, last, splitOn_cons_of_ne sep c cs piece _ hc hcs, ?_⟩
        intro back first rest h
        exact splitOn_cons_of_ne sep c (cs ++ back) piece _ hc (happend back first rest h)

theorem splitOn_append_of_not_mem (sep : Char) (front back first : Text) (rest : List Text)
    (h : sep ∉ front) (hback : splitOn sep back = first :: rest) :
    splitOn sep (front ++ back) = (front ++ first) :: rest := by
  induction front with
  | nil => exact hback
  | cons c cs ih =>
    rw [List.mem_cons, not_or] at h
    exact splitOn_cons_of_ne sep c (cs ++ back) (cs ++ first) rest (Ne.symm h.1) (ih h.2)

theorem splitOn_join (sep : Char) (pieces : List Text) (hne : pieces ≠ [])
    (h : ∀ piece ∈ pieces, sep ∉ piece) : splitOn sep (join [sep] pieces) = pieces := by
  induction pieces with
  | nil => exact absurd rfl hne
  | cons piece rest ih =>
    have hpiece := h piece List.mem_cons_self
    cases rest with
    | nil => exact splitOn_of_not_mem sep piece hpiece
    | cons next rest =>
      have hrest := ih (by simp) fun p hp => h p (List.mem_cons_of_mem _ hp)
      have hback : splitOn sep (sep :: join [sep] (next :: rest)) = [] :: next :: rest := by
        rw [splitOn_cons_self, hrest]
      rw [join_cons_of_ne_nil _ _ _ (by simp), List.append_assoc, List.singleton_append,
        splitOn_append_of_not_mem sep piece _ [] _ hpiece hback, List.append_nil]

theorem lines_join (pieces : List Text) (hne : pieces ≠ []) (h : ∀ piece ∈ pieces, '\n' ∉ piece) :
    lines (join ['\n'] pieces) = pieces := splitOn_join '\n' pieces hne h

def ended (lines : List Text) : Text := lines.flatMap (· ++ ['\n'])

@[simp] theorem length_ended_cons (line : Text) (rest : List Text) :
    (ended (line :: rest)).length = line.length + 1 + (ended rest).length := by
  rw [ended, List.flatMap_cons, List.length_append, List.length_append, List.length_singleton, ended]

theorem isSuffix_join (sep piece : Text) (pieces : List Text) : piece <:+ join sep (pieces ++ [piece]) := by
  induction pieces with
  | nil => exact List.suffix_refl piece
  | cons first pieces ih =>
    rw [List.cons_append, join_cons_of_ne_nil _ _ _ (by simp)]
    exact ih.trans (List.suffix_append _ _)

theorem lines_of_newline (text : Text) (h : ∀ c ∈ text.head?, c = '\n') :
    ∃ rest, text.lines = [] :: rest := by
  cases text with
  | nil => exact ⟨[], rfl⟩
  | cons c cs =>
    obtain rfl : c = '\n' := h c rfl
    exact ⟨lines cs, splitOn_cons_self '\n' cs⟩

/-- The line that a stretch without newlines stands on. What is before it and behind it does not
depend on the stretch. -/
theorem exists_line_around (front back : Text) :
    ∃ before pre post after, pre <:+ front ∧ back.lines = post :: after ∧
      (∀ stretch, '\n' ∉ stretch → lines (front ++ stretch) = before ++ [pre ++ stretch]) ∧
      ∀ stretch, '\n' ∉ stretch →
        lines (front ++ (stretch ++ back)) = before ++ (pre ++ (stretch ++ post)) :: after := by
  obtain ⟨before, pre, hfront, happend⟩ := splitOn_append '\n' front
  obtain ⟨post, after, hback⟩ := List.exists_cons_of_ne_nil (splitOn_ne_nil '\n' back)
  refine ⟨before, pre, post, after, ?_, hback, ?_, ?_⟩
  · have hsuffix := isSuffix_join ['\n'] pre before
    rwa [← hfront, join_splitOn] at hsuffix
  · intro stretch hstretch
    exact happend stretch stretch [] (splitOn_of_not_mem '\n' stretch hstretch)
  · intro stretch hstretch
    exact happend _ _ _ (splitOn_append_of_not_mem '\n' stretch back post after hstretch hback)

end ScadAdvisor.Text
