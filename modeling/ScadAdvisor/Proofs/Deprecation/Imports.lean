import ScadAdvisor.Proofs.CaseKey
import ScadAdvisor.Proofs.Deprecation.Occurrences

/-! # Which file names the import finder reports

The finder reads an import from its end: of all file names before the next closing parenthesis it
wants the last one. What it finds in a text is said here by a search over offsets.
-/

namespace ScadAdvisor

namespace Deprecation

/-! ## The search over offsets -/

/-- The word at `head`, in whatever case, then blanks, then a parenthesis at `paren`. -/
structure IsHead (masked : Text) (head paren : Nat) : Prop where
  word : Text.Alike importWord (Text.slice masked head (head + importWord.length))
  le : head + importWord.length ≤ paren
  blanks : ∀ c ∈ Text.slice masked (head + importWord.length) paren, Text.isBlank c = true
  paren : masked[paren]? = some '('

/-- A quote at `quote`, the next one at `stop`, and between them a name that is longer than the
extension and ends with it, in whatever case. -/
structure IsFileName (masked extension : Text) (quote stop : Nat) : Prop where
  opened : masked[quote]?.any Mask.isQuote = true
  closed : masked[stop]?.any Mask.isQuote = true
  plain : ∀ c ∈ Text.slice masked (quote + 1) stop, Mask.isQuote c = false
  longer : extension.length < stop - (quote + 1)
  ends : Text.Alike extension (Text.slice masked (stop - extension.length) stop)

/-- A file name with no closing parenthesis between `start` and its quote. -/
structure IsCandidate (masked extension : Text) (start quote stop : Nat) : Prop where
  le : start ≤ quote
  inside : ')' ∉ Text.slice masked start quote
  name : IsFileName masked extension quote stop

def HasCandidate (masked extension : Text) (head : Nat) : Prop :=
  ∃ paren quote stop, IsHead masked head paren ∧ IsCandidate masked extension (paren + 1) quote stop

/-- The candidate of a head whose quote comes last. -/
def Picks (masked extension : Text) (head quote stop : Nat) : Prop :=
  ∃ paren, IsHead masked head paren ∧ IsCandidate masked extension (paren + 1) quote stop ∧
    ∀ q e, IsCandidate masked extension (paren + 1) q e → q ≤ quote

/-- From an offset on, the first head with a candidate is taken, and the search goes on behind the
name that is picked there. -/
inductive ImportsFrom (masked extension : Text) : Nat → List (Nat × Nat) → Prop where
  | done (pos : Nat) (h : ∀ head, pos ≤ head → ¬ HasCandidate masked extension head) :
      ImportsFrom masked extension pos []
  | found (pos head quote stop : Nat) (spans : List (Nat × Nat)) (hpos : pos ≤ head)
      (hfirst : ∀ earlier, pos ≤ earlier → earlier < head → ¬ HasCandidate masked extension earlier)
      (h : Picks masked extension head quote stop)
      (hrest : ImportsFrom masked extension (stop + 1) spans) :
      ImportsFrom masked extension pos ((quote + 1, stop) :: spans)

/-! ## Ends of names -/

theorem plain_of_alike (extension ending : Text) (hplain : ∀ c ∈ extension, Mask.isQuote c = false)
    (h : Text.Alike extension ending) : ∀ c ∈ ending, Mask.isQuote c = false := by
  intro c hc
  rw [← Bool.not_eq_true]
  intro hquote
  have hkey : Text.caseKey c = c ∧ c.toNat < 0x41 := by
    simp only [Mask.isQuote, Bool.or_eq_true, beq_iff_eq] at hquote
    rcases hquote with rfl | rfl <;> decide +kernel
  have hmem : Text.caseKey c ∈ extension.map Text.caseKey := h ▸ List.mem_map_of_mem hc
  obtain ⟨p, hp, heq⟩ := List.mem_map.mp hmem
  have hpc := Text.caseKey_of_lt p (by rw [heq, hkey.1]; exact hkey.2)
  rw [heq, hkey.1] at hpc
  have := hplain p hp
  rw [← hpc, hquote] at this
  cases this

structure Ends (extension text : Text) (n : Nat) : Prop where
  closed : text[n]?.any Mask.isQuote = true
  plain : ∀ c ∈ text.take n, Mask.isQuote c = false
  le : extension.length ≤ n
  alike : Text.Alike extension (Text.slice text (n - extension.length) n)

theorem Ends.le_of_ends {extension text : Text} {n m : Nat} (h : Ends extension text n)
    (h' : Ends extension text m) : n ≤ m := by
  by_contra hlt
  obtain ⟨c, hc, hquote⟩ := (Option.any_eq_true _ _).mp h'.closed
  have hmem : c ∈ text.take n := by
    rw [List.mem_iff_getElem?]
    exact ⟨m, by rw [List.getElem?_take_of_lt (by omega), hc]⟩
  simp [h.plain c hmem] at hquote

theorem Ends.unique {extension text : Text} {n m : Nat} (h : Ends extension text n)
    (h' : Ends extension text m) : n = m := Nat.le_antisymm (h.le_of_ends h') (h'.le_of_ends h)

theorem ends_cons_iff (extension : Text) (c : Char) (rest : Text) (n : Nat) :
    Ends extension (c :: rest) (n + 1) ∧ extension.length < n + 1 ↔
      Mask.isQuote c = false ∧ Ends extension rest n := by
  have hslice : extension.length ≤ n → Text.slice (c :: rest) (n + 1 - extension.length) (n + 1) =
      Text.slice rest (n - extension.length) n := by
    intro hle
    rw [Text.slice, Text.slice, Nat.sub_add_comm hle, List.drop_succ_cons]
    congr 1
    omega
  constructor
  · rintro ⟨⟨hclosed, hplain, -, halike⟩, hlt⟩
    rw [List.take_succ_cons, List.forall_mem_cons] at hplain
    rw [hslice (by omega)] at halike
    exact ⟨hplain.1, hclosed, hplain.2, by omega, halike⟩
  · rintro ⟨hc, hclosed, hplain, hle, halike⟩
    refine ⟨⟨hclosed, ?_, by omega, ?_⟩, by omega⟩
    · rw [List.take_succ_cons, List.forall_mem_cons]
      exact ⟨hc, hplain⟩
    · rw [hslice hle]
      exact halike

section

variable {extension : Text} (hplain : ∀ c ∈ extension, Mask.isQuote c = false)

include hplain

@[simp] theorem endsWithExtension_iff (text : Text) :
    endsWithExtension extension text = true ↔ Ends extension text extension.length := by
  have hslice : Text.slice text (extension.length - extension.length) extension.length =
      text.take extension.length := by
    simp [Text.slice]
  unfold endsWithExtension
  rw [Bool.and_eq_true, Text.startsAlike_iff, List.head?_drop]
  constructor
  · rintro ⟨halike, hclosed⟩
    exact ⟨hclosed, plain_of_alike extension _ hplain halike, Nat.le_refl _, hslice ▸ halike⟩
  · rintro ⟨hclosed, -, -, halike⟩
    exact ⟨hslice ▸ halike, hclosed⟩

/-- The longest file name is the only one: it ends before the first quote. -/
theorem fileNameLength_iff (text : Text) (n : Nat) :
    fileNameLength extension text = some n ↔ Ends extension text n ∧ extension.length < n := by
  induction text generalizing n with
  | nil =>
    constructor
    · intro h
      cases h
    · rintro ⟨h, -⟩
      simpa using h.closed
  | cons c rest ih =>
    cases n with
    | zero =>
      constructor
      · intro h
        have := fileNameLength_bounds extension (c :: rest) 0 h
        omega
      · rintro ⟨-, h⟩
        omega
    | succ n =>
      rw [ends_cons_iff, fileNameLength]
      cases hc : Mask.isQuote c with
      | true => simp
      | false =>
        simp only [Bool.false_eq_true, if_false, true_and]
        cases hrest : fileNameLength extension rest with
        | some m =>
          have hm := ((ih m).mp hrest).1
          constructor
          · intro h
            cases h
            exact hm
          · intro h
            rw [hm.unique h]
        | none =>
          have hends := endsWithExtension_iff hplain rest
          simp only
          split
          · rename_i hend
            constructor
            · intro h
              cases h
              exact hends.mp hend
            · intro h
              rw [(hends.mp hend).unique h]
          · rename_i hend
            constructor
            · intro h
              cases h
            · intro h
              -- A longer name would have been found further on.
              rcases Nat.lt_or_eq_of_le h.le with hlt | heq
              · rw [(ih n).mpr ⟨h, hlt⟩] at hrest
                cases hrest
              · exact absurd (hends.mpr (heq ▸ h)) hend

end

/-! ## File names and candidates -/

theorem isFileName_iff (masked extension : Text) (quote n : Nat) :
    IsFileName masked extension quote (quote + 1 + n) ↔
      masked[quote]?.any Mask.isQuote = true ∧ Ends extension (masked.drop (quote + 1)) n ∧
        extension.length < n := by
  have hname : Text.slice masked (quote + 1) (quote + 1 + n) = (masked.drop (quote + 1)).take n := by
    rw [Text.slice, Nat.add_sub_cancel_left]
  have hending : extension.length ≤ n →
      Text.slice masked (quote + 1 + n - extension.length) (quote + 1 + n) =
        Text.slice (masked.drop (quote + 1)) (n - extension.length) n := by
    intro hle
    rw [Text.slice, Text.slice, List.drop_drop, Nat.add_sub_assoc hle]
    congr 1
    omega
  constructor
  · rintro ⟨hopened, hclosed, hplain, hlonger, hends⟩
    rw [Nat.add_sub_cancel_left] at hlonger
    rw [hname] at hplain
    rw [hending hlonger.le] at hends
    exact ⟨hopened, ⟨by rwa [List.getElem?_drop], hplain, hlonger.le, hends⟩, hlonger⟩
  · rintro ⟨hopened, ⟨hclosed, hplain, hle, halike⟩, hlonger⟩
    refine ⟨hopened, by rwa [List.getElem?_drop] at hclosed, ?_, by omega, ?_⟩
    · rwa [hname]
    · rwa [hending hle]

theorem IsFileName.unique {masked extension : Text} {quote stop other : Nat}
    (h : IsFileName masked extension quote stop) (h' : IsFileName masked extension quote other) :
    stop = other := by
  have hlt := h.longer
  have hlt' := h'.longer
  obtain ⟨n, rfl⟩ := Nat.exists_eq_add_of_le (show quote + 1 ≤ stop by omega)
  obtain ⟨m, rfl⟩ := Nat.exists_eq_add_of_le (show quote + 1 ≤ other by omega)
  have hends := ((isFileName_iff _ _ _ _).mp h).2.1
  have hends' := ((isFileName_iff _ _ _ _).mp h').2.1
  rw [hends.unique hends']

theorem isCandidate_iff (masked extension : Text) (start : Nat) (c : Char) (rest : Text)
    (hdrop : masked.drop start = c :: rest) (quote stop : Nat) :
    IsCandidate masked extension start quote stop ↔
      (quote = start ∧ IsFileName masked extension start stop) ∨
        (c ≠ ')' ∧ IsCandidate masked extension (start + 1) quote stop) := by
  have hslice : start < quote → Text.slice masked start quote = c :: Text.slice masked (start + 1) quote := by
    intro hlt
    rw [Text.slice, Text.slice, hdrop, Text.drop_succ_of_drop_eq_cons hdrop,
      show quote - start = quote - (start + 1) + 1 by omega, List.take_succ_cons]
  constructor
  · rintro ⟨hle, hinside, hname⟩
    rcases Nat.lt_or_eq_of_le hle with hlt | rfl
    · rw [hslice hlt, List.mem_cons, not_or] at hinside
      exact Or.inr ⟨Ne.symm hinside.1, hlt, hinside.2, hname⟩
    · exact Or.inl ⟨rfl, hname⟩
  · rintro (⟨rfl, hname⟩ | ⟨hc, hle, hinside, hname⟩)
    · exact ⟨Nat.le_refl _, by simp [Text.slice], hname⟩
    · refine ⟨by omega, ?_, hname⟩
      rw [hslice hle, List.mem_cons, not_or]
      exact ⟨Ne.symm hc, hinside⟩

/-- Either there is no candidate from `start` on, or what is found is the last one. -/
def LastPost (masked extension : Text) (start : Nat) : Option (Nat × Nat) → Prop
  | none => ∀ quote stop, ¬ IsCandidate masked extension start quote stop
  | some (a, b) =>
    ∃ quote, start + a = quote + 1 ∧ IsCandidate masked extension start quote (start + b) ∧
      ∀ q e, IsCandidate masked extension start q e → q ≤ quote

section

variable (masked : Text) {extension : Text} (hplain : ∀ c ∈ extension, Mask.isQuote c = false)

include hplain

theorem lastPost_quote (start : Nat) (c : Char) (rest : Text) (hdrop : masked.drop start = c :: rest)
    (hc : Mask.isQuote c = true)
    (hnone : ∀ quote stop, ¬ IsCandidate masked extension (start + 1) quote stop) :
    LastPost masked extension start ((fileNameLength extension rest).map fun n => (1, n + 1)) := by
  have hopened : masked[start]?.any Mask.isQuote = true := by
    rw [← List.head?_drop, hdrop]
    simpa using hc
  have hrest := Text.drop_succ_of_drop_eq_cons hdrop
  have hhere : ∀ n, IsFileName masked extension start (start + 1 + n) ↔
      fileNameLength extension rest = some n := by
    intro n
    rw [isFileName_iff, hrest, fileNameLength_iff hplain]
    simp [hopened]
  cases hname : fileNameLength extension rest with
  | none =>
    intro quote stop hcandidate
    rcases (isCandidate_iff _ _ _ _ _ hdrop _ _).mp hcandidate with ⟨rfl, hfile⟩ | ⟨-, hlater⟩
    · have hlt := hfile.longer
      obtain ⟨n, rfl⟩ := Nat.exists_eq_add_of_le (show quote + 1 ≤ stop by omega)
      rw [(hhere n).mp hfile] at hname
      cases hname
    · exact hnone quote stop hlater
  | some n =>
    have hfile := (hhere n).mpr hname
    refine ⟨start, rfl, ?_, ?_⟩
    · rw [show start + (n + 1) = start + 1 + n by omega]
      exact (isCandidate_iff _ _ _ _ _ hdrop _ _).mpr (Or.inl ⟨rfl, hfile⟩)
    · intro q e hcandidate
      rcases (isCandidate_iff _ _ _ _ _ hdrop _ _).mp hcandidate with ⟨rfl, -⟩ | ⟨-, hlater⟩
      · exact Nat.le_refl q
      · exact absurd hlater (hnone q e)

theorem lastFileName_spec (start : Nat) (rest : Text) (hdrop : masked.drop start = rest) :
    LastPost masked extension start (lastFileName extension rest) := by
  induction rest generalizing start with
  | nil =>
    intro quote stop hcandidate
    have hle := hcandidate.le
    have hopened := hcandidate.name.opened
    rw [List.drop_eq_nil_iff] at hdrop
    rw [List.getElem?_eq_none (by omega)] at hopened
    cases hopened
  | cons c rest ih =>
    have hhead : masked[start]? = some c := by
      rw [← List.head?_drop, hdrop]
      rfl
    have hrest := ih (start + 1) (Text.drop_succ_of_drop_eq_cons hdrop)
    have hcandidate := isCandidate_iff masked extension start c rest hdrop
    rw [lastFileName]
    split
    · rename_i hclose
      rw [beq_iff_eq] at hclose
      intro quote stop h
      rcases (hcandidate quote stop).mp h with ⟨-, hfile⟩ | ⟨hopen, -⟩
      · have hopened := hfile.opened
        rw [hhead, hclose] at hopened
        revert hopened
        decide
      · exact hopen hclose
    · rename_i hopen
      have hopen : c ≠ ')' := by simpa using hopen
      split
      · rename_i a b hlast
        rw [hlast] at hrest
        obtain ⟨quote, hquote, hfound, hmax⟩ := hrest
        have hle := hfound.le
        refine ⟨quote, by omega, ?_, ?_⟩
        · rw [show start + (b + 1) = start + 1 + b by omega]
          exact (hcandidate _ _).mpr (Or.inr ⟨hopen, hfound⟩)
        · intro q e h
          rcases (hcandidate q e).mp h with ⟨rfl, -⟩ | ⟨-, hlater⟩
          · omega
          · exact hmax q e hlater
      · rename_i hlast
        rw [hlast] at hrest
        split
        · rename_i hquote
          exact lastPost_quote masked hplain start c rest hdrop hquote hrest
        · rename_i hquote
          intro quote stop h
          rcases (hcandidate quote stop).mp h with ⟨-, hfile⟩ | ⟨-, hlater⟩
          · have hopened := hfile.opened
            rw [hhead] at hopened
            exact hquote hopened
          · exact hrest quote stop hlater

end

/-! ## Heads -/

theorem isHead_iff (masked : Text) (head paren : Nat) :
    IsHead masked head paren ↔
      Text.startsAlike importWord (masked.drop head) = true ∧
        paren = head + (importWord.length +
          ((masked.drop (head + importWord.length)).takeWhile Text.isBlank).length) ∧
        masked[paren]? = some '(' := by
  have hword : Text.slice masked head (head + importWord.length) =
      (masked.drop head).take importWord.length := by
    rw [Text.slice, Nat.add_sub_cancel_left]
  rw [Text.startsAlike_iff, ← hword]
  constructor
  · rintro ⟨halike, hle, hblanks, hparen⟩
    have hopen : Text.isBlank '(' = false := by decide +kernel
    have hlt := (List.getElem?_eq_some_iff.mp hparen).1
    have hrun := Text.takeWhile_drop_eq_slice Text.isBlank masked _ paren hle hblanks
      (by rw [hparen]; exact hopen)
    refine ⟨halike, ?_, hparen⟩
    rw [hrun, Text.length_slice _ _ _ hlt.le]
    omega
  · rintro ⟨halike, rfl, hparen⟩
    refine ⟨halike, by omega, ?_, hparen⟩
    rw [← Nat.add_assoc, Text.slice_of_isPrefix _ _ _ (List.takeWhile_prefix _)]
    exact List.all_eq_true.mp List.all_takeWhile

def ImportPost (masked extension : Text) (head : Nat) : Option ((Nat × Nat) × Nat) → Prop
  | none => ¬ HasCandidate masked extension head
  | some ((a, b), taken) =>
    ∃ quote stop, Picks masked extension head quote stop ∧ head + a = quote + 1 ∧ head + b = stop ∧
      head + taken = stop + 1

theorem importAt_spec (masked extension : Text) (hplain : ∀ c ∈ extension, Mask.isQuote c = false)
    (before : Option Char) (head : Nat) :
    ImportPost masked extension head (importAt extension before (masked.drop head)) := by
  unfold importAt
  simp only [List.drop_drop, List.head?_drop]
  generalize hparen : importWord.length +
    ((masked.drop (head + importWord.length)).takeWhile Text.isBlank).length = paren
  have hheads : ∀ p, IsHead masked head p ↔ Text.startsAlike importWord (masked.drop head) = true ∧
      p = head + paren ∧ masked[p]? = some '(' := by
    intro p
    rw [isHead_iff, hparen]
  split
  · rename_i hword
    split
    · rename_i hopen
      rw [beq_iff_eq] at hopen
      have hhead := (hheads (head + paren)).mpr ⟨hword, rfl, hopen⟩
      have hlast := lastFileName_spec masked hplain (head + (paren + 1)) _ rfl
      cases hname : lastFileName extension (masked.drop (head + (paren + 1))) with
      | none =>
        rw [hname] at hlast
        rintro ⟨p, quote, stop, hp, hcandidate⟩
        obtain ⟨-, rfl, -⟩ := (hheads p).mp hp
        exact hlast quote stop hcandidate
      | some found =>
        obtain ⟨a, b⟩ := found
        rw [hname] at hlast
        obtain ⟨quote, hquote, hcandidate, hmax⟩ := hlast
        exact ⟨quote, head + (paren + 1) + b, ⟨head + paren, hhead, hcandidate, hmax⟩, by omega,
          by omega, by omega⟩
    · rename_i hopen
      rintro ⟨p, quote, stop, hp, -⟩
      obtain ⟨-, rfl, hparen⟩ := (hheads p).mp hp
      exact hopen (by rw [hparen]; rfl)
  · rename_i hword
    rintro ⟨p, quote, stop, hp, -⟩
    exact hword ((hheads p).mp hp).1

/-! ## The whole search -/

theorem Picks.hasCandidate {masked extension : Text} {head quote stop : Nat}
    (h : Picks masked extension head quote stop) : HasCandidate masked extension head := by
  obtain ⟨paren, hhead, hcandidate, -⟩ := h
  exact ⟨paren, quote, stop, hhead, hcandidate⟩

theorem Picks.unique {masked extension : Text} {head quote stop quote' stop' : Nat}
    (h : Picks masked extension head quote stop) (h' : Picks masked extension head quote' stop') :
    quote = quote' ∧ stop = stop' := by
  obtain ⟨paren, hhead, hcandidate, hmax⟩ := h
  obtain ⟨paren', hhead', hcandidate', hmax'⟩ := h'
  obtain rfl : paren = paren' := by
    rw [((isHead_iff _ _ _).mp hhead).2.1, ((isHead_iff _ _ _).mp hhead').2.1]
  obtain rfl : quote = quote' :=
    Nat.le_antisymm (hmax' _ _ hcandidate) (hmax _ _ hcandidate')
  exact ⟨rfl, hcandidate.name.unique hcandidate'.name⟩

theorem ImportsFrom.unique {masked extension : Text} {pos : Nat} {spans others : List (Nat × Nat)}
    (h : ImportsFrom masked extension pos spans) (h' : ImportsFrom masked extension pos others) :
    spans = others := by
  induction h generalizing others with
  | done pos hnone =>
    cases h' with
    | done => rfl
    | found _ head _ _ _ hpos _ hpicks => exact absurd hpicks.hasCandidate (hnone head hpos)
  | found pos head quote stop spans hpos hfirst hpicks _ ih =>
    cases h' with
    | done _ hnone => exact absurd hpicks.hasCandidate (hnone head hpos)
    | found _ head' quote' stop' others hpos' hfirst' hpicks' hrest' =>
      rcases Nat.lt_trichotomy head head' with hlt | rfl | hlt
      · exact absurd hpicks.hasCandidate (hfirst' head hpos hlt)
      · obtain ⟨rfl, rfl⟩ := hpicks.unique hpicks'
        rw [ih hrest']
      · exact absurd hpicks'.hasCandidate (hfirst head' hpos' hlt)

theorem ImportsFrom.of_succ {masked extension : Text} {pos : Nat} {spans : List (Nat × Nat)}
    (h : ImportsFrom masked extension (pos + 1) spans) (hnone : ¬ HasCandidate masked extension pos) :
    ImportsFrom masked extension pos spans := by
  have hlater : ∀ head, pos ≤ head → head = pos ∨ pos + 1 ≤ head := by omega
  cases h with
  | done _ h =>
    refine .done pos ?_
    intro head hpos
    rcases hlater head hpos with rfl | hpos
    · exact hnone
    · exact h head hpos
  | found _ head quote stop spans hpos hfirst hpicks hrest =>
    refine .found pos head quote stop spans (by omega) ?_ hpicks hrest
    intro earlier hearlier hlt
    rcases hlater earlier hearlier with rfl | hearlier
    · exact hnone
    · exact hfirst earlier hearlier hlt

/-- The positions that are still to be skipped are those that the last find takes up. -/
theorem importsFrom_searchFrom (masked extension : Text)
    (hplain : ∀ c ∈ extension, Mask.isQuote c = false) (skip : Nat) (before : Option Char) (pos : Nat)
    (rest : Text) (hdrop : masked.drop pos = rest) :
    ImportsFrom masked extension (pos + skip)
      ((Text.searchFrom (importAt extension) skip before pos rest).map
        fun (p, start, stop) => (p + start, p + stop)) := by
  fun_induction Text.searchFrom (importAt extension) skip before pos rest with
  | case1 skip before pos =>
    refine .done _ ?_
    rintro head hpos ⟨paren, quote, stop, hhead, -⟩
    have hle := hhead.le
    have hlt := (List.getElem?_eq_some_iff.mp hhead.paren).1
    rw [List.drop_eq_nil_iff] at hdrop
    omega
  | case2 skip before pos c cs ih =>
    have hrest := ih (Text.drop_succ_of_drop_eq_cons hdrop)
    rwa [Nat.add_right_comm] at hrest
  | case3 before pos c cs found taken hr ih =>
    obtain ⟨a, b⟩ := found
    have hpost := importAt_spec masked extension hplain before pos
    rw [hdrop, hr] at hpost
    obtain ⟨quote, stop, hpicks, hstart, hstop, htaken⟩ := hpost
    have hrest := ih (Text.drop_succ_of_drop_eq_cons hdrop)
    rw [show pos + 1 + (taken - 1) = stop + 1 by omega] at hrest
    simp only [List.map_cons, hstart, hstop]
    exact .found _ pos quote stop _ (Nat.le_refl pos) (by omega) hpicks hrest
  | case4 before pos c cs hr ih =>
    have hpost := importAt_spec masked extension hplain before pos
    rw [hdrop, hr] at hpost
    exact (ih (Text.drop_succ_of_drop_eq_cons hdrop)).of_succ hpost

theorem importsFrom_importUses (masked extension : Text)
    (hplain : ∀ c ∈ extension, Mask.isQuote c = false) :
    ImportsFrom masked extension 0 (importUses masked extension) :=
  importsFrom_searchFrom masked extension hplain 0 none 0 masked rfl

/-- With an extension that has no quotes the finder does the search over offsets from the start of the
text, which has one outcome, and reports all that comes out of it. -/
theorem findImports_eq_search (masked extension message : Text)
    (hplain : ∀ c ∈ extension, Mask.isQuote c = false) :
    ∃ spans found, (∀ others, ImportsFrom masked extension 0 others ↔ others = spans) ∧
      findImports masked [(extension, message)] = .ok found ∧
      found.map Diagnostic.content = spans.map fun (start, stop) =>
        (.deprecation, .deprecatedImport, start, stop, message, none) := by
  have hsearch := importsFrom_importUses masked extension hplain
  have hreports : ∀ span ∈ importUses masked extension, ∃ d,
      Diagnostic.ofSpan .deprecation .deprecatedImport span.1 span.2 message none = .ok d ∧
        d.content = (.deprecation, .deprecatedImport, span.1, span.2, message, none) := by
    rintro ⟨start, stop⟩ hmem
    have hlt := (importUses_bounds masked extension start stop hmem).1
    exact ⟨_, Diagnostic.ofSpan_eq_ok _ _ _ _ _ _ hlt, rfl⟩
  obtain ⟨found, hfound, hcontent⟩ := mapM_id_map _ _ _ _ hreports
  refine ⟨importUses masked extension, found, ?_, ?_, hcontent⟩
  · intro others
    constructor
    · exact fun h => h.unique hsearch
    · rintro rfl
      exact hsearch
  · rw [findImports, List.flatMap_singleton]
    exact hfound

/-- Of two names in one import the last one counts, an import that is not closed takes the name of the
next one, and the search goes on behind that name. -/
theorem imports_of_several_names :
    let masked :=
      "import(\"a.amf\", 'b.AMF'); İmport (\"c\n.Amf\", import(\"d.amf\"), Import(\"e.amf\", f)".toList
    let extension := ".amf".toList
    importUses masked extension = [(17, 22), (52, 57), (69, 74)] ∧
      ∃ spans found, (∀ others, ImportsFrom masked extension 0 others ↔ others = spans) ∧
        findImports masked [(extension, "old".toList)] = .ok found ∧
        found.map Diagnostic.content = spans.map fun (start, stop) =>
          (.deprecation, .deprecatedImport, start, stop, "old".toList, none) := by
  intro masked extension
  have hplain : ∀ c ∈ extension, Mask.isQuote c = false := by
    simp [extension, Mask.isQuote]
  exact ⟨by decide +kernel, findImports_eq_search masked extension "old".toList hplain⟩

end Deprecation

end ScadAdvisor
