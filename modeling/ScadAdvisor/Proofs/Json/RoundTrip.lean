import Mathlib.Data.List.Basic
import ScadAdvisor.Json.Value
import ScadAdvisor.Proofs.Digits
import ScadAdvisor.Proofs.Json.Reader

/-! # Written JSON is read back -/

namespace ScadAdvisor

namespace JsonReader

/-! ## Strings -/

/-- The numbers that stand for a character. -/
def units (c : Char) : List Nat :=
  if c.toNat < 0x10000 then [c.toNat]
  else [0xD800 + (c.toNat - 0x10000) / 0x400, 0xDC00 + (c.toNat - 0x10000) % 0x400]

@[simp] theorem textOf_units (c : Char) (more : List Nat) :
    textOf (units c ++ more) = (textOf more).map (c :: ·) := by
  have hc : c.toNat < 0xD800 ∨ 0xDFFF < c.toNat ∧ c.toNat < 0x110000 := c.valid
  unfold units
  split
  case isTrue h =>
    have hhigh : isHighHalf c.toNat = false := by simp [isHighHalf]; omega
    have hlow : isLowHalf c.toNat = false := by simp [isLowHalf]; omega
    rw [List.singleton_append, textOf.eq_def]
    simp only [hhigh, hlow, Bool.false_eq_true, if_false, Char.ofNat_toNat]
  case isFalse h =>
    generalize hm : c.toNat - 0x10000 = m at *
    have hhigh : isHighHalf (0xD800 + m / 0x400) = true := by simp [isHighHalf]; omega
    have hlow : isLowHalf (0xDC00 + m % 0x400) = true := by simp [isLowHalf]; omega
    have hsum : 0x10000 + (0xD800 + m / 0x400 - 0xD800) * 0x400 + (0xDC00 + m % 0x400 - 0xDC00) =
        c.toNat := by omega
    simp only [List.cons_append, List.nil_append, textOf, hhigh, hlow, if_true, hsum, Char.ofNat_toNat]

theorem codes_unitEscape {n : Nat} (h : n < 0x10000) (rest : Text) :
    codes (JsonValue.unitEscape n ++ rest) = (codes rest).map fun p => (n :: p.1, p.2) := by
  have hdigits : (Text.hex 4 n).all Ascii.isHexDigit = true :=
    List.all_eq_true.mpr fun c hc => Text.isHexDigit_of_mem_hex hc
  have hvalue := Text.digitsValue_hex 4 n
  unfold JsonValue.unitEscape
  match hhex : Text.hex 4 n, Text.length_hex h with
  | [a, b, c, d], _ =>
    rw [hhex] at hdigits hvalue
    simp only [List.cons_append, List.nil_append, codes, hdigits, if_true, hvalue]

theorem units_of_lt {c : Char} (h : c.toNat < 0x10000) : units c = [c.toNat] := if_pos h

theorem codes_letter {letter c : Char} (hu : letter ≠ 'u') (hletter : escaped? letter = some c)
    (hc : c.toNat < 0x10000) (rest : Text) :
    codes ('\\' :: letter :: rest) = (codes rest).map fun p => (units c ++ p.1, p.2) := by
  rw [codes.eq_4 _ _ fun _ _ _ _ _ h _ => hu h, hletter, units_of_lt hc]
  cases codes rest <;> rfl

theorem codes_plain {c : Char} (hquote : c ≠ '"') (hslash : c ≠ '\\') (hlow : ' ' ≤ c)
    (hc : c.toNat < 0x10000) (rest : Text) :
    codes (c :: rest) = (codes rest).map fun p => (units c ++ p.1, p.2) := by
  rw [codes.eq_5 _ _ hquote (fun _ _ _ _ _ h _ => hslash h) (fun _ _ h _ => hslash h),
    if_neg (Char.not_lt.mpr hlow), units_of_lt hc]
  rfl

@[simp] theorem codes_codeEscape (c : Char) (rest : Text) :
    codes (JsonValue.codeEscape c.toNat ++ rest) =
      (codes rest).map fun p => (units c ++ p.1, p.2) := by
  have hc : c.toNat < 0x110000 := by
    have := c.valid
    simp only [UInt32.isValidChar, Nat.isValidChar] at this
    simp only [Char.toNat]
    omega
  unfold JsonValue.codeEscape units
  split
  case isTrue h => exact codes_unitEscape h rest
  case isFalse h =>
    rw [List.append_assoc, codes_unitEscape (by omega), codes_unitEscape (by omega), Option.map_map]
    rfl

@[simp] theorem codes_escapeChar (c : Char) (rest : Text) :
    codes (JsonValue.escapeChar c ++ rest) = (codes rest).map fun p => (units c ++ p.1, p.2) := by
  have hletter : ∀ {d letter : Char}, (c == d) = true → letter ≠ 'u' → escaped? letter = some d →
      d.toNat < 0x10000 →
      codes (['\\', letter] ++ rest) = (codes rest).map fun p => (units c ++ p.1, p.2) := by
    intro d letter hd hu hletter hplane
    rw [beq_iff_eq.mp hd]
    exact codes_letter hu hletter hplane rest
  unfold JsonValue.escapeChar
  split_ifs with hquote hslash hnewline hreturn htab hback hfeed hplain
  · exact hletter hquote (by decide) rfl (by decide)
  · exact hletter hslash (by decide) rfl (by decide)
  · exact hletter hnewline (by decide) rfl (by decide)
  · exact hletter hreturn (by decide) rfl (by decide)
  · exact hletter htab (by decide) rfl (by decide)
  · exact hletter hback (by decide) rfl (by decide)
  · exact hletter hfeed (by decide) rfl (by decide)
  · simp only [Bool.and_eq_true, decide_eq_true_eq] at hplain
    have hplane : c.toNat ≤ '~'.toNat := hplain.2
    exact codes_plain (by simpa using hquote) (by simpa using hslash) hplain.1
      (Nat.lt_of_le_of_lt hplane (by decide)) rest
  · exact codes_codeEscape c rest

@[simp] theorem codes_flatMap_escapeChar (text rest : Text) :
    codes (text.flatMap JsonValue.escapeChar ++ '"' :: rest) = some (text.flatMap units, rest) := by
  induction text with
  | nil => simp [codes]
  | cons c cs ih => simp [ih]

@[simp] theorem textOf_flatMap_units (text : Text) : textOf (text.flatMap units) = some text := by
  induction text with
  | nil => rfl
  | cons c cs ih => simp [ih]

@[simp] theorem scalar_renderString (text rest : Text) :
    scalar (JsonValue.renderString text ++ rest) = some (.string text, rest) := by
  simp [JsonValue.renderString, scalar, string]

/-! ## Numbers -/

/-- A number that stands before this text ends there. -/
def Delimited (rest : Text) : Prop :=
  ∀ c ∈ rest.head?, Ascii.isDigit c = false ∧ c ≠ '.' ∧ c ≠ 'e' ∧ c ≠ 'E'

theorem delimited_comma (rest : Text) : Delimited (',' :: rest) := by
  rintro _ ⟨⟩
  decide

theorem delimited_lineEnd (rest : Text) : Delimited ('\n' :: rest) := by
  rintro _ ⟨⟩
  decide

theorem digits_ofNat (n : Nat) {rest : Text} (h : Delimited rest) :
    digits (Text.ofNat n ++ rest) = some (Text.ofNat n, rest) := by
  have hdigit : ∀ c ∈ Text.ofNat n, Ascii.isDigit c = true := by
    intro c hc
    obtain ⟨d, hd, rfl⟩ := Text.exists_digit_of_mem_toDigits (by omega) hc
    exact Text.isDigit_digitChar d hd
  have hrest : rest.takeWhile Ascii.isDigit = [] := by
    cases rest with
    | nil => rfl
    | cons c cs => simp [(h c rfl).1]
  have hrun : (Text.ofNat n ++ rest).takeWhile Ascii.isDigit = Text.ofNat n := by
    rw [List.takeWhile_append_of_pos hdigit, hrest, List.append_nil]
  have hne : Text.ofNat n ≠ [] := Nat.toDigits_ne_nil
  simp [digits, hrun, hne]

theorem whole_ofNat (n : Nat) {rest : Text} (h : Delimited rest) :
    whole (Text.ofNat n ++ rest) = some (Text.ofNat n, rest) := by
  have hzero : (Text.ofNat n).head? = some '0' → Text.ofNat n = ['0'] := by
    intro hhead
    rw [Text.eq_zero_of_head?_toDigits hhead]
    rfl
  simpa [whole, digits_ofNat n h] using hzero

theorem magnitude_ofNat (n : Nat) {rest : Text} (h : Delimited rest) :
    magnitude (Text.ofNat n ++ rest) = some (n, 0, rest) := by
  have hfraction : fraction rest = some ([], rest) := by
    cases rest with
    | nil => rfl
    | cons c cs =>
      rw [fraction]
      intro tail heq
      injection heq with hc
      exact (h c rfl).2.1 hc
  have hexponent : exponent rest = some (0, rest) := by
    cases rest with
    | nil => rfl
    | cons c cs => simp [exponent, (h c rfl).2.2.1, (h c rfl).2.2.2]
  have hvalue : Text.digitsValue 10 (Text.ofNat n) = n :=
    Text.digitsValue_toDigits (by omega) (by omega) n
  simp [magnitude, whole_ofNat n h, hfraction, hexponent, hvalue]

def StartsNumber (c : Char) : Prop :=
  isGap c = false ∧ mark? c = none ∧ c ∉ ['"', 'n', 't', 'f']

theorem startsNumber_digitChar : ∀ d < 10, StartsNumber d.digitChar := by
  unfold StartsNumber
  decide

theorem startsNumber_minus : StartsNumber '-' := by
  unfold StartsNumber
  decide

theorem StartsNumber.scalar_eq {c : Char} (h : StartsNumber c) (text : Text) :
    scalar (c :: text) = number (c :: text) := by
  obtain ⟨-, -, hc⟩ := h
  simp only [List.mem_cons, List.not_mem_nil, or_false, not_or] at hc
  have hword : words.find? (fun entry => entry.1.isPrefixOf (c :: text)) = none := by
    simp [words, Ne.symm hc.2.1, Ne.symm hc.2.2.1, Ne.symm hc.2.2.2]
  rw [scalar.eq_2 _ fun _ heq => hc.1 (List.cons.inj heq).1, hword]

theorem ofNat_eq_cons (n : Nat) : ∃ d < 10, ∃ cs, Text.ofNat n = d.digitChar :: cs := by
  match h : Text.ofNat n with
  | [] => exact absurd h Nat.toDigits_ne_nil
  | c :: cs =>
    have hmem : c ∈ Nat.toDigits 10 n := by
      change c ∈ Text.ofNat n
      simp [h]
    obtain ⟨d, hd, rfl⟩ := Text.exists_digit_of_mem_toDigits (by omega) hmem
    exact ⟨d, hd, cs, rfl⟩

theorem ofInt_eq_cons (n : Int) : ∃ c cs, Text.ofInt n = c :: cs ∧ StartsNumber c := by
  cases n with
  | ofNat m =>
    obtain ⟨d, hd, cs, h⟩ := ofNat_eq_cons m
    exact ⟨_, cs, h, startsNumber_digitChar d hd⟩
  | negSucc m => exact ⟨'-', _, rfl, startsNumber_minus⟩

theorem number_ofInt (n : Int) {rest : Text} (h : Delimited rest) :
    number (Text.ofInt n ++ rest) = some (.number n 0, rest) := by
  cases n with
  | ofNat m =>
    have hminus : ∀ tail, Text.ofNat m ++ rest ≠ '-' :: tail := by
      intro tail heq
      obtain ⟨d, hd, cs, hm⟩ := ofNat_eq_cons m
      have hdigit : ∀ d < 10, d.digitChar ≠ '-' := by decide
      rw [hm] at heq
      exact hdigit d hd (List.cons.inj heq).1
    simp [Text.ofInt, number.eq_2 _ hminus, magnitude_ofNat m h]
  | negSucc m =>
    simp [Text.ofInt, number, magnitude_ofNat (m + 1) h, Int.negSucc_eq]

/-! ## Tokens -/

theorem tokens_scalar {c : Char} {body rest : Text} {value : JsonTerm} (hgap : isGap c = false)
    (hmark : mark? c = none) (hscalar : scalar (c :: (body ++ rest)) = some (value, rest)) :
    tokens (c :: (body ++ rest)) = (tokens rest).map (.scalar value :: ·) := by
  have hlength : rest.length < (c :: (body ++ rest)).length := by
    simp only [List.length_cons, List.length_append]
    omega
  rw [tokens, hmark, hscalar]
  simp only [hgap, hlength, Bool.false_eq_true, if_false, if_true]

theorem tokens_mark {c : Char} {m : Mark} (hgap : isGap c = false) (hmark : mark? c = some m)
    (rest : Text) : tokens (c :: rest) = (tokens rest).map (.mark m :: ·) := by
  rw [tokens, hmark]
  simp only [hgap, Bool.false_eq_true, if_false]

theorem tokens_gap {c : Char} (h : isGap c = true) (rest : Text) : tokens (c :: rest) = tokens rest := by
  rw [tokens, if_pos h]

@[simp] theorem tokens_blank (n : Nat) (rest : Text) : tokens (Text.blank n ++ rest) = tokens rest := by
  induction n with
  | zero => rfl
  | succ n ih => rw [Text.blank, List.replicate_succ, List.cons_append, tokens_gap rfl]; exact ih

@[simp] theorem tokens_newline (depth : Nat) (rest : Text) :
    tokens (JsonValue.newline depth ++ rest) = tokens rest := by
  rw [JsonValue.newline, List.cons_append, tokens_gap rfl, tokens_blank]

@[simp] theorem tokens_renderString (text rest : Text) :
    tokens (JsonValue.renderString text ++ rest) = (tokens rest).map (.scalar (.string text) :: ·) :=
  tokens_scalar rfl rfl (scalar_renderString text rest)

theorem tokens_ofInt (n : Int) {rest : Text} (h : Delimited rest) :
    tokens (Text.ofInt n ++ rest) = (tokens rest).map (.scalar (.number n 0) :: ·) := by
  have hnumber := number_ofInt n h
  obtain ⟨c, cs, hn, hc⟩ := ofInt_eq_cons n
  rw [hn] at hnumber ⊢
  exact tokens_scalar hc.1 hc.2.1 ((hc.scalar_eq _).trans hnumber)

end JsonReader

namespace JsonValue

open JsonReader

mutual

def tokens : JsonValue → List Token
  | .null => [.scalar .null]
  | .bool b => [.scalar (.bool b)]
  | .int n => [.scalar (.number n 0)]
  | .string text => [.scalar (.string text)]
  | .array [] => [.mark .openArray, .mark .closeArray]
  | .array (first :: rest) =>
    .mark .openArray :: tokens first ++ itemTokens rest ++ [.mark .closeArray]
  | .object [] => [.mark .openObject, .mark .closeObject]
  | .object ((name, first) :: rest) =>
    .mark .openObject :: .scalar (.string name) :: .mark .colon :: tokens first ++ fieldTokens rest ++
      [.mark .closeObject]

def itemTokens : List JsonValue → List Token
  | [] => []
  | item :: rest => .mark .comma :: tokens item ++ itemTokens rest

def fieldTokens : List (Text × JsonValue) → List Token
  | [] => []
  | (name, value) :: rest =>
    .mark .comma :: .scalar (.string name) :: .mark .colon :: tokens value ++ fieldTokens rest

end

theorem delimited_newline (depth : Nat) (rest : Text) : Delimited (newline depth ++ rest) :=
  delimited_lineEnd _

theorem delimited_renderItems (depth : Nat) (items : List JsonValue) {rest : Text}
    (h : Delimited rest) : Delimited (renderItems depth items ++ rest) := by
  cases items with
  | nil => simpa [renderItems] using h
  | cons item items => exact delimited_comma _

theorem delimited_renderFields (depth : Nat) (fields : List (Text × JsonValue)) {rest : Text}
    (h : Delimited rest) : Delimited (renderFields depth fields ++ rest) := by
  cases fields with
  | nil => simpa [renderFields] using h
  | cons field fields => exact delimited_comma _

mutual

theorem tokens_renderAt (depth : Nat) (value : JsonValue) {rest : Text} (h : Delimited rest) :
    JsonReader.tokens (renderAt depth value ++ rest) =
      (JsonReader.tokens rest).map (value.tokens ++ ·) := by
  match value with
  | .null => exact tokens_scalar rfl rfl rfl
  | .bool true => exact tokens_scalar rfl rfl rfl
  | .bool false => exact tokens_scalar rfl rfl rfl
  | .int n => simpa [renderAt, tokens] using tokens_ofInt n h
  | .string text => simp [renderAt, tokens]
  | .array [] =>
    change JsonReader.tokens ('[' :: ']' :: rest) = _
    rw [tokens_mark rfl rfl, tokens_mark rfl rfl]
    simp [tokens, Function.comp_def]
  | .array (first :: items) =>
    have hend := delimited_newline depth (']' :: rest)
    have hitems := tokens_renderItems (depth + 1) items hend
    have hfirst := tokens_renderAt (depth + 1) first (delimited_renderItems (depth + 1) items hend)
    rw [renderAt, tokens]
    simp only [List.cons_append, List.append_assoc, List.nil_append]
    rw [tokens_mark rfl rfl, tokens_newline, hfirst, hitems, tokens_newline, tokens_mark rfl rfl]
    simp [Function.comp_def]
  | .object [] =>
    change JsonReader.tokens ('\x7b' :: '\x7d' :: rest) = _
    rw [tokens_mark rfl rfl, tokens_mark rfl rfl]
    simp [tokens, Function.comp_def]
  | .object ((name, first) :: fields) =>
    have hend := delimited_newline depth ('\x7d' :: rest)
    have hfields := tokens_renderFields (depth + 1) fields hend
    have hfirst := tokens_renderAt (depth + 1) first (delimited_renderFields (depth + 1) fields hend)
    rw [renderAt, tokens]
    simp only [List.cons_append, List.append_assoc, List.nil_append]
    rw [tokens_mark rfl rfl, tokens_newline, tokens_renderString, tokens_mark rfl rfl, tokens_gap rfl,
      hfirst, hfields, tokens_newline, tokens_mark rfl rfl]
    simp [Function.comp_def]

theorem tokens_renderItems (depth : Nat) (items : List JsonValue) {rest : Text} (h : Delimited rest) :
    JsonReader.tokens (renderItems depth items ++ rest) =
      (JsonReader.tokens rest).map (itemTokens items ++ ·) := by
  match items with
  | [] => simp [renderItems, itemTokens]
  | item :: items =>
    have hitem := tokens_renderAt depth item (delimited_renderItems depth items h)
    have hitems := tokens_renderItems depth items h
    rw [renderItems, itemTokens]
    simp only [List.cons_append, List.append_assoc]
    rw [tokens_mark rfl rfl, tokens_newline, hitem, hitems]
    simp [Function.comp_def]

theorem tokens_renderFields (depth : Nat) (fields : List (Text × JsonValue)) {rest : Text}
    (h : Delimited rest) :
    JsonReader.tokens (renderFields depth fields ++ rest) =
      (JsonReader.tokens rest).map (fieldTokens fields ++ ·) := by
  match fields with
  | [] => simp [renderFields, fieldTokens]
  | (name, value) :: fields =>
    have hvalue := tokens_renderAt depth value (delimited_renderFields depth fields h)
    have hfields := tokens_renderFields depth fields h
    rw [renderFields, fieldTokens]
    simp only [List.cons_append, List.append_assoc]
    rw [tokens_mark rfl rfl, tokens_newline, tokens_renderString,
      tokens_mark rfl rfl, tokens_gap rfl]
    simp [Function.comp_def, hvalue, hfields]

end

/-! ## Values -/

mutual

def term : JsonValue → JsonTerm
  | .null => .null
  | .bool b => .bool b
  | .int n => .number n 0
  | .string text => .string text
  | .array items => .array (itemTerms items)
  | .object fields => .object (fieldTerms fields)

def itemTerms : List JsonValue → List JsonTerm
  | [] => []
  | item :: rest => term item :: itemTerms rest

def fieldTerms : List (Text × JsonValue) → List (Text × JsonTerm)
  | [] => []
  | (name, value) :: rest => (name, term value) :: fieldTerms rest

end

theorem run_append (state : State) (front back : List Token) :
    State.run state (front ++ back) = (State.run state front).bind (State.run · back) :=
  List.foldlM_append

@[simp] theorem run_cons (state : State) (token : Token) (rest : List Token) :
    State.run state (token :: rest) = (State.step state token).bind (State.run · rest) :=
  List.foldlM_cons

/-- A value may stand first in an array, since it does not start with the closing bracket. -/
theorem run_firstItem (value : JsonValue) (frames : List Frame) (rest : List Token) :
    State.run (.firstItem frames) (value.tokens ++ rest) =
      State.run (.beforeValue (.array [] :: frames)) (value.tokens ++ rest) := by
  match value with
  | .null | .bool _ | .int _ | .string _ | .array [] | .array (_ :: _) | .object []
  | .object (_ :: _) =>
    simp only [tokens, List.cons_append, run_cons]
    rfl

mutual

@[simp] theorem run_tokens (value : JsonValue) (frames : List Frame) :
    State.run (.beforeValue frames) value.tokens = some (State.deliver value.term frames) := by
  match value with
  | .null | .bool _ | .int _ | .string _ | .array [] | .object [] => rfl
  | .array (first :: items) =>
    have hfirst := run_tokens first (.array [] :: frames)
    have hitems := run_itemTokens items [first.term] frames
    calc State.run (.beforeValue frames) (tokens (.array (first :: items)))
      _ = State.run (.firstItem frames) (first.tokens ++ (itemTokens items ++ [.mark .closeArray])) := by
        rw [tokens, List.cons_append, List.cons_append, List.append_assoc, run_cons]
        rfl
      _ = State.run (.behindItem [first.term] frames) (itemTokens items ++ [.mark .closeArray]) := by
        rw [run_firstItem, run_append, hfirst]
        rfl
      _ = some (State.deliver (term (.array (first :: items))) frames) := by
        rw [run_append, hitems, term, itemTerms]
        rfl
  | .object ((name, first) :: fields) =>
    have hfirst := run_tokens first (.object [] name :: frames)
    have hfields := run_fieldTokens fields [(name, first.term)] frames
    calc State.run (.beforeValue frames) (tokens (.object ((name, first) :: fields)))
      _ = State.run (.beforeValue (.object [] name :: frames))
          (first.tokens ++ (fieldTokens fields ++ [.mark .closeObject])) := by
        rw [tokens]
        simp only [List.cons_append, List.append_assoc, run_cons]
        rfl
      _ = State.run (.behindField [(name, first.term)] frames)
          (fieldTokens fields ++ [.mark .closeObject]) := by
        rw [run_append, hfirst]
        rfl
      _ = some (State.deliver (term (.object ((name, first) :: fields))) frames) := by
        rw [run_append, hfields, term, fieldTerms]
        rfl

theorem run_itemTokens (items : List JsonValue) (before : List JsonTerm) (frames : List Frame) :
    State.run (.behindItem before frames) (itemTokens items) =
      some (.behindItem (before ++ itemTerms items) frames) := by
  match items with
  | [] => simp [itemTokens, itemTerms, State.run]
  | item :: items =>
    have hitem := run_tokens item (.array before :: frames)
    have hitems := run_itemTokens items (before ++ [item.term]) frames
    calc State.run (.behindItem before frames) (itemTokens (item :: items))
      _ = State.run (.beforeValue (.array before :: frames)) (item.tokens ++ itemTokens items) := by
        rw [itemTokens, List.cons_append, run_cons]
        rfl
      _ = State.run (.behindItem (before ++ [item.term]) frames) (itemTokens items) := by
        rw [run_append, hitem]
        rfl
      _ = some (.behindItem (before ++ itemTerms (item :: items)) frames) := by
        rw [hitems, itemTerms, List.append_assoc, List.singleton_append]

theorem run_fieldTokens (fields : List (Text × JsonValue)) (before : List (Text × JsonTerm))
    (frames : List Frame) :
    State.run (.behindField before frames) (fieldTokens fields) =
      some (.behindField (before ++ fieldTerms fields) frames) := by
  match fields with
  | [] => simp [fieldTokens, fieldTerms, State.run]
  | (name, value) :: fields =>
    have hvalue := run_tokens value (.object before name :: frames)
    have hfields := run_fieldTokens fields (before ++ [(name, value.term)]) frames
    calc State.run (.behindField before frames) (fieldTokens ((name, value) :: fields))
      _ = State.run (.beforeValue (.object before name :: frames))
          (value.tokens ++ fieldTokens fields) := by
        rw [fieldTokens]
        simp only [List.cons_append, run_cons]
        rfl
      _ = State.run (.behindField (before ++ [(name, value.term)]) frames) (fieldTokens fields) := by
        rw [run_append, hvalue]
        rfl
      _ = some (.behindField (before ++ fieldTerms ((name, value) :: fields)) frames) := by
        rw [hfields, fieldTerms, List.append_assoc, List.singleton_append]

end

@[simp] theorem read_render (value : JsonValue) : JsonReader.read value.render = some value.term := by
  have hend : Delimited [] := by simp [Delimited]
  have htokens := tokens_renderAt 0 value hend
  have hnil : JsonReader.tokens [] = some [] := by rw [JsonReader.tokens]
  rw [List.append_nil, hnil] at htokens
  have hrun := run_tokens value []
  simp [JsonReader.read, render, htokens, hrun, State.deliver, State.result?]

/-! ## ASCII -/

def IsAscii (text : Text) : Prop := ∀ c ∈ text, c.toNat < 0x80

@[simp] theorem isAscii_nil : IsAscii [] := by simp [IsAscii]

@[simp] theorem isAscii_cons {c : Char} {text : Text} :
    IsAscii (c :: text) ↔ c.toNat < 0x80 ∧ IsAscii text := List.forall_mem_cons

@[simp] theorem isAscii_append {front back : Text} :
    IsAscii (front ++ back) ↔ IsAscii front ∧ IsAscii back := List.forall_mem_append

theorem isAscii_toDigits {base : Nat} (hlow : 1 < base) (hhigh : base ≤ 16) (n : Nat) :
    IsAscii (Nat.toDigits base n) := by
  have hdigit : ∀ d < 16, d.digitChar.toNat < 0x80 := by decide
  intro c hc
  obtain ⟨d, hd, rfl⟩ := Text.exists_digit_of_mem_toDigits hlow hc
  exact hdigit d (by omega)

theorem isAscii_replicate (n : Nat) {c : Char} (h : c.toNat < 0x80) : IsAscii (List.replicate n c) := by
  intro d hd
  rw [List.eq_of_mem_replicate hd]
  exact h

@[simp] theorem isAscii_ofInt (n : Int) : IsAscii (Text.ofInt n) := by
  have hnat : ∀ m, IsAscii (Nat.toDigits 10 m) := isAscii_toDigits (by omega) (by omega)
  cases n with
  | ofNat m => exact hnat m
  | negSucc m => exact isAscii_cons.mpr ⟨by decide, hnat (m + 1)⟩

@[simp] theorem isAscii_unitEscape (n : Nat) : IsAscii (unitEscape n) := by
  simp [unitEscape, Text.hex, isAscii_toDigits, isAscii_replicate]

@[simp] theorem isAscii_escapeChar (c : Char) : IsAscii (escapeChar c) := by
  unfold escapeChar
  split_ifs with hquote hslash hnewline hreturn htab hback hfeed hplain
  iterate 7 simp
  · simp only [Bool.and_eq_true, decide_eq_true_eq] at hplain
    have hc : c.toNat ≤ '~'.toNat := hplain.2
    exact isAscii_cons.mpr ⟨Nat.lt_of_le_of_lt hc (by decide), isAscii_nil⟩
  · unfold codeEscape
    split
    · exact isAscii_unitEscape _
    · exact isAscii_append.mpr ⟨isAscii_unitEscape _, isAscii_unitEscape _⟩

@[simp] theorem isAscii_renderString (text : Text) : IsAscii (renderString text) := by
  have hbody : IsAscii (text.flatMap escapeChar) := by
    intro c hc
    obtain ⟨d, -, hd⟩ := List.mem_flatMap.mp hc
    exact isAscii_escapeChar d c hd
  simp [renderString, hbody]

@[simp] theorem isAscii_newline (depth : Nat) : IsAscii (newline depth) := by
  simp [newline, Text.blank, isAscii_replicate]

mutual

@[simp] theorem isAscii_renderAt (depth : Nat) (value : JsonValue) : IsAscii (renderAt depth value) := by
  match value with
  | .null | .bool true | .bool false | .array [] | .object [] => simp [renderAt]
  | .int n => simp [renderAt]
  | .string text => simp [renderAt]
  | .array (first :: items) =>
    have hfirst := isAscii_renderAt (depth + 1) first
    have hitems := isAscii_renderItems (depth + 1) items
    simp [renderAt, hfirst, hitems]
  | .object ((name, first) :: fields) =>
    have hfirst := isAscii_renderAt (depth + 1) first
    have hfields := isAscii_renderFields (depth + 1) fields
    simp [renderAt, hfirst, hfields]

theorem isAscii_renderItems (depth : Nat) (items : List JsonValue) :
    IsAscii (renderItems depth items) := by
  match items with
  | [] => simp [renderItems]
  | item :: items =>
    have hitem := isAscii_renderAt depth item
    have hitems := isAscii_renderItems depth items
    simp [renderItems, hitem, hitems]

theorem isAscii_renderFields (depth : Nat) (fields : List (Text × JsonValue)) :
    IsAscii (renderFields depth fields) := by
  match fields with
  | [] => simp [renderFields]
  | (name, value) :: fields =>
    have hvalue := isAscii_renderAt depth value
    have hfields := isAscii_renderFields depth fields
    simp [renderFields, hvalue, hfields]

end

end JsonValue

end ScadAdvisor
