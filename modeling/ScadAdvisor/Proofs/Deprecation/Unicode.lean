import ScadAdvisor.Proofs.Deprecation.Occurrences
import ScadAdvisor.Proofs.LineMask
import ScadAdvisor.Proofs.Mask
import ScadAdvisor.Proofs.Settings

/-! # Old names beyond ASCII

The settings take any identifier for an old name, and the finder knows the edges of ASCII words only.
It finds a name by its first character: the others may be any letters there are.
-/

namespace ScadAdvisor

/-! ## Code that stays -/

namespace Mask

theorem run_code_append (body rest : Text) (h : '/' ∉ body) :
    run false .code (body ++ rest) = body ++ run false .code rest := by
  induction body with
  | nil => rfl
  | cons c cs ih =>
    rw [List.mem_cons, not_or] at h
    have hstep : step false .code c (cs ++ rest).head? = (c, .code) := by simp [step, Ne.symm h.1]
    rw [List.cons_append, run, hstep, ih h.2]
    rfl

theorem maskComments_append (front body rest : Text) (h : '/' ∉ body)
    (hcode : (regions false .code (front ++ (body ++ rest)))[front.length]? = some .code) :
    ∃ image tail, maskComments (front ++ (body ++ rest)) = image ++ (body ++ tail) ∧
      front.Blanking image := by
  have hregion := regions_append false .code front (body ++ rest) 0
  have hrun := run_append false .code front (body ++ rest)
  have hstart : ∀ region : Region, (regions false region (body ++ rest))[0]? = some region := by
    intro region
    cases body ++ rest <;> rfl
  rw [Nat.add_zero, hcode, hstart, Option.some.injEq] at hregion
  rw [← hregion, run_code_append body rest h] at hrun
  refine ⟨_, _, hrun, ?_⟩
  have hblank := blanking_run false .code (front ++ (body ++ rest))
  rw [hrun] at hblank
  have hlen := hblank.length_eq
  have hrest := (blanking_run false .code rest).length_eq
  simp only [List.length_append] at hlen
  have htake := List.forall₂_take front.length hblank
  rwa [List.take_left, List.take_left' (by omega)] at htake

end Mask

/-! ## Names where they stand -/

theorem isWord_head_iff (name : Text) (hid : isIdentifier name = true) :
    Deprecation.isWordAt name.head? = true ↔ ∀ c ∈ name.head?, c.toNat < 0x80 := by
  cases name with
  | nil => cases hid
  | cons c cs =>
    rw [isIdentifier, Bool.and_eq_true] at hid
    have hcontinue : Identifier.isContinue c = true := by
      unfold Identifier.isContinue
      rw [Bool.or_eq_true]
      exact Or.inl hid.1
    simp only [Deprecation.isWordAt, List.head?_cons, Option.any_some, Option.mem_some_iff, forall_eq']
    constructor
    · exact Ascii.toNat_lt_of_isWord c
    · intro hlt
      rw [Ascii.isWord_eq_isContinue c hlt, hcontinue]

namespace Deprecation

theorem assigns_append (front name spaces rest : Text) (h : ∀ c ∈ spaces, Ascii.isSpace c = true) :
    Assigns (front ++ (name ++ (spaces ++ '=' :: rest))) name front.length
      (front.length + name.length + spaces.length) where
  stands := (Text.slice_eq_iff_isPrefix _ _ _).mpr (by simp)
  le := Nat.le_add_right _ _
  spaces := by
    rw [Nat.add_assoc, Text.slice_append_right, ← Nat.add_zero name.length, Nat.add_assoc,
      Text.slice_append_right, Nat.zero_add]
    simpa [Text.slice] using h
  equals := by
    rw [List.getElem?_append_right (by omega), List.getElem?_append_right (by omega),
      List.getElem?_append_right (by omega)]
    simp [Nat.add_assoc]

theorem isWordAt_of_blanking (front image : Text) (h : front.Blanking image)
    (hbefore : ∀ c ∈ front.getLast?, Identifier.isContinue c = false) :
    isWordAt image.getLast? = false := by
  have hfront : isWordAt front.getLast? = false := by
    unfold isWordAt
    rw [Option.any_eq_false]
    intro c hc
    rw [← Bool.not_eq_true]
    intro hword
    have hcontinue := hbefore c hc
    rw [Ascii.isContinue_of_isWord c hword] at hcontinue
    cases hcontinue
  rw [List.getLast?_eq_getElem?] at hfront ⊢
  rw [h.length_eq]
  rcases h.getElem?_eq (front.length - 1) with heq | hspace
  · rw [heq, hfront]
  · rw [hspace]
    decide

/-- Masking leaves a name that starts in code as it is, up to its equals sign. -/
theorem maskComments_assignment (front name spaces rest : Text) (hid : isIdentifier name = true)
    (hspaces : ∀ c ∈ spaces, Ascii.isSpace c = true)
    (hcode : (Mask.regions false .code (front ++ (name ++ (spaces ++ '=' :: rest))))[front.length]? =
      some .code) :
    ∃ image tail, maskComments (front ++ (name ++ (spaces ++ '=' :: rest))) =
      image ++ (name ++ (spaces ++ '=' :: tail)) ∧ front.Blanking image := by
  have hname := not_mem_of_isIdentifier '/' (Identifier.isContinue_of_lt '/' (by decide)) name hid
  have hspace : '/' ∉ spaces := by
    intro hmem
    have := hspaces '/' hmem
    revert this
    decide
  have hsplit : ∀ rest : Text, name ++ (spaces ++ '=' :: rest) = (name ++ (spaces ++ ['='])) ++ rest := by
    simp
  rw [hsplit rest] at hcode ⊢
  obtain ⟨image, tail, hmask, hblank⟩ :=
    Mask.maskComments_append front _ rest (by simp [hname, hspace]) hcode
  exact ⟨image, tail, by rw [hmask, hsplit tail], hblank⟩

theorem mem_parameterUses_append_iff (image name spaces rest : Text) (hid : isIdentifier name = true)
    (hspaces : ∀ c ∈ spaces, Ascii.isSpace c = true) (hbefore : isWordAt image.getLast? = false) :
    image.length ∈ parameterUses (image ++ (name ++ (spaces ++ '=' :: rest))) name ↔
      ∀ c ∈ name.head?, c.toNat < 0x80 := by
  have hassigns := assigns_append image name spaces rest hspaces
  have hhead : (image ++ (name ++ (spaces ++ '=' :: rest)))[image.length]? = name.head? := by
    rw [← List.head?_drop, List.drop_left, List.head?_append_of_ne_nil _ (ne_nil_of_isIdentifier name hid)]
  rw [mem_parameterUses_iff _ _ _ hid, List.take_left, hbefore, hhead, ← isWord_head_iff name hid]
  constructor
  · rintro ⟨hedge, -⟩
    simpa using hedge.symm
  · intro hword
    exact ⟨by simp [hword], _, hassigns⟩

/-! ## What is collected -/

theorem mapM_id_eq_ok_iff {ε α : Type} (results : List (Except ε α)) (all : List α) :
    results.mapM id = .ok all ↔ results = all.map .ok := by
  induction results generalizing all with
  | nil => cases all <;> simp [pure, Except.pure]
  | cons result rest ih =>
    rw [List.mapM_cons]
    cases result with
    | error e => cases all <;> simp [bind, Except.bind]
    | ok a =>
      cases hrest : rest.mapM id with
      | error e => cases all <;> simp [bind, Except.bind, ← ih, hrest]
      | ok others => cases all <;> simp [bind, Except.bind, pure, Except.pure, ← ih, hrest]

theorem mem_findParameters_iff (masked : Text) (renames : Table Text) (found : List Diagnostic)
    (h : findParameters masked renames = .ok found) (d : Diagnostic) :
    d ∈ found ↔ ∃ name replacement start, (name, replacement) ∈ renames ∧
      start ∈ parameterUses masked name ∧ parameterDiagnostic name replacement start = .ok d := by
  have hresults := (mapM_id_eq_ok_iff _ _).mp h
  have hmem : d ∈ found ↔ Except.ok d ∈ found.map (Except.ok : Diagnostic → Except SpanFault _) := by
    simp
  rw [hmem, ← hresults]
  simp only [List.mem_flatMap, List.mem_map, Prod.exists]
  constructor
  · rintro ⟨name, replacement, hrename, start, hstart, hd⟩
    exact ⟨name, replacement, start, hrename, hstart, hd⟩
  · rintro ⟨name, replacement, start, hrename, hstart, hd⟩
    exact ⟨name, replacement, hrename, start, hstart, hd⟩

theorem reported_iff (masked name replacement : Text) (renames : Table Text) (found : List Diagnostic)
    (h : findParameters masked renames = .ok found) (hname : (name, replacement) ∈ renames)
    (hne : name ≠ []) (start : Nat) (hstands : Text.slice masked start (start + name.length) = name) :
    (∃ d ∈ found, d.code = .deprecatedParameter ∧ d.start = start ∧ d.stop = start + name.length) ↔
      start ∈ parameterUses masked name := by
  constructor
  · rintro ⟨d, hd, -, hstart, hstop⟩
    obtain ⟨other, _, i, -, hi, hdiagnostic⟩ := (mem_findParameters_iff _ _ _ h d).mp hd
    have hother := slice_parameterUses masked other i hi
    unfold parameterDiagnostic Diagnostic.ofSpan at hdiagnostic
    split at hdiagnostic
    · cases hdiagnostic
      -- The same stretch of the text, so the same name.
      dsimp only at hstart hstop
      rw [hstop, hstart, hstands] at hother
      rwa [hstart, ← hother] at hi
    · cases hdiagnostic
  · intro hmem
    have hlt : start < start + name.length := Nat.lt_add_of_pos_right (List.length_pos_iff.mpr hne)
    refine ⟨_, (mem_findParameters_iff _ _ _ h _).mpr ⟨name, replacement, start, hname, hmem,
      Diagnostic.ofSpan_eq_ok _ _ _ _ _ _ hlt⟩, rfl, rfl, rfl⟩

/-! ## Checked settings -/

/-- With checked settings an old name that is given a value outside comments is reported if and only
if it starts with an ASCII character. Whatever stands before it must not be part of a name. -/
theorem validated_reported_iff (settings : ScanSettings) (h : settings.Validated)
    (name replacement : Text) (hname : (name, replacement) ∈ settings.parameters)
    (front spaces rest : Text) (hbefore : ∀ c ∈ front.getLast?, Identifier.isContinue c = false)
    (hspaces : ∀ c ∈ spaces, Ascii.isSpace c = true) (text : Text)
    (htext : text = front ++ (name ++ (spaces ++ '=' :: rest)))
    (hcode : (Mask.regions false .code text)[front.length]? = some .code) :
    ∃ found, findParameters (maskComments text) settings.parameters = .ok found ∧
      ((∃ d ∈ found, d.code = .deprecatedParameter ∧ d.start = front.length ∧
          d.stop = front.length + name.length) ↔ ∀ c ∈ name.head?, c.toNat < 0x80) := by
  have hid := (h.parameters _ hname).1
  have hne := ne_nil_of_isIdentifier name hid
  rw [htext] at hcode ⊢
  obtain ⟨image, tail, hmask, hblank⟩ := maskComments_assignment front name spaces rest hid hspaces hcode
  have hstands := (assigns_append image name spaces tail hspaces).stands
  obtain ⟨found, hfound, -⟩ := findParameters_spec (maskComments _) settings.parameters
    fun rename hmem => ne_nil_of_isIdentifier _ (h.parameters rename hmem).1
  refine ⟨found, hfound, ?_⟩
  rw [hmask] at hfound
  rw [← hblank.length_eq, reported_iff _ name replacement _ found hfound hname hne _ hstands]
  exact mem_parameterUses_append_iff image name spaces tail hid hspaces
    (isWordAt_of_blanking front image hblank hbefore)

/-- The name has other letters behind its first one, and a comment ends where it starts. -/
theorem name_behind_comment_reported :
    let v : Value := .mapping [(Field.parameters, .mapping [("größe".toList, .string "size".toList)])]
    let settings : ScanSettings := { parameters := [("größe".toList, "size".toList)] }
    let name := "größe".toList
    let front := "f(/*x*/".toList
    let text := "f(/*x*/größe =1);".toList
    ScanSettings.read v = .ok settings ∧
      ∃ found, findParameters (maskComments text) settings.parameters = .ok found ∧
        ∃ d ∈ found, d.code = .deprecatedParameter ∧ d.start = front.length ∧
          d.stop = front.length + name.length := by
  intro v settings name front text
  have hread : ScanSettings.read v = .ok settings := by rfl
  have hmem : (name, "size".toList) ∈ settings.parameters := by decide
  have hbefore : ∀ c ∈ front.getLast?, Identifier.isContinue c = false := by
    simp only [Option.mem_def]
    intro c hc
    cases hc
    decide +kernel
  obtain ⟨found, hfound, hreported⟩ := validated_reported_iff settings (.read v settings hread) name
    "size".toList hmem front [' '] "1);".toList hbefore (by simp; decide) text rfl (by decide +kernel)
  refine ⟨hread, found, hfound, hreported.mpr ?_⟩
  intro c hc
  cases hc
  decide

/-- A table with this name is accepted, and yet nothing is reported. -/
theorem first_letter_beyond_ascii_unreported :
    let v : Value := .mapping [(Field.parameters, .mapping [("ä".toList, .string "a".toList)])]
    let settings : ScanSettings := { parameters := [("ä".toList, "a".toList)] }
    let text := "ä=1".toList
    ScanSettings.read v = .ok settings ∧ ("ä".toList, "a".toList) ∈ settings.parameters ∧
      text = "ä".toList ++ '=' :: "1".toList ∧ (Mask.regions false .code text)[0]? = some .code ∧
      findParameters (maskComments text) settings.parameters = .ok [] := by
  intro v settings text
  exact ⟨by rfl, by decide, rfl, by decide +kernel, by rfl⟩

end Deprecation

end ScadAdvisor
