import ScadAdvisor.Snapshot

/-! # Keys of snapshots

A path may hold colons and digits of its own. What stands behind the last colon of a key is the version
all the same, since no number has a colon.
-/

namespace ScadAdvisor

namespace Text

theorem ofNat_inj {m n : Nat} (h : ofNat m = ofNat n) : m = n := by
  have hvalue := congrArg (Nat.ofDigitChars 10 · 0) h
  simpa only [ofNat, Nat.ofDigitChars_ten_toDigits] using hvalue

theorem isDigit_of_mem_ofNat {n : Nat} {c : Char} (h : c ∈ ofNat n) : c.isDigit = true :=
  Nat.isDigit_of_mem_toDigits (by omega) (by omega) h

theorem not_mem_ofInt {c : Char} (hdigit : c.isDigit = false) (hminus : c ≠ '-') (n : Int) :
    c ∉ ofInt n := by
  have hnat : ∀ m, c ∉ ofNat m := by
    intro m hmem
    rw [isDigit_of_mem_ofNat hmem] at hdigit
    cases hdigit
  cases n with
  | ofNat m => exact hnat m
  | negSucc m => simp [ofInt, hminus, hnat]

theorem ofInt_inj {m n : Int} (h : ofInt m = ofInt n) : m = n := by
  have hminus : ∀ a b : Nat, ofNat a ≠ '-' :: ofNat b := by
    intro a b hab
    have hdigit := isDigit_of_mem_ofNat (n := a) (c := '-') (by simp [hab])
    cases hdigit
  cases m with
  | ofNat a =>
    cases n with
    | ofNat b => rw [ofNat_inj h]
    | negSucc b => exact absurd h (hminus a (b + 1))
  | negSucc a =>
    cases n with
    | ofNat b => exact absurd h.symm (hminus b (a + 1))
    | negSucc b =>
      injection h with _ h
      have hab := ofNat_inj h
      rw [show a = b by omega]

theorem append_last_inj {sep : Char} {a b c d : Text} (h : a ++ sep :: b = c ++ sep :: d)
    (hb : sep ∉ b) (hd : sep ∉ d) : a = c ∧ b = d := by
  rcases List.append_eq_append_iff.mp h with ⟨e, rfl, hbd⟩ | ⟨e, rfl, hdb⟩
  · cases e with
    | nil => simpa using hbd
    | cons x e =>
      injection hbd with _ hbd
      simp [hbd] at hb
  · cases e with
    | nil => simpa [eq_comm] using hdb
    | cons x e =>
      injection hdb with _ hdb
      simp [hdb] at hd

end Text

theorem snapshotKey_inj {path other : Text} {version number : Int}
    (h : snapshotKey path version = snapshotKey other number) : path = other ∧ version = number := by
  obtain ⟨hpath, hversion⟩ := Text.append_last_inj h (Text.not_mem_ofInt (by decide) (by decide) _)
    (Text.not_mem_ofInt (by decide) (by decide) _)
  exact ⟨hpath, Text.ofInt_inj hversion⟩

/-- Two keys are one key only if they are of one path and one version, whatever colons, digits and signs
the paths hold and however far the versions are from zero. -/
theorem snapshotKey_eq_iff (path other : Text) (version number : Int) :
    snapshotKey path version = snapshotKey other number ↔ path = other ∧ version = number := by
  constructor
  · exact snapshotKey_inj
  · rintro ⟨rfl, rfl⟩
    rfl

-- A path may look like a key itself.
example : snapshotKey "a:1".toList (-2) = "a:1:-2".toList := by decide +kernel

end ScadAdvisor
