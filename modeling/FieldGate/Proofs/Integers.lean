import FieldGate.Number.Integer
import FieldGate.Proofs.Noted

/-! Integers in decimal. What is read are exactly the decimal spellings of the integers that fit the
width, and so what is written is read back. -/
namespace FieldGate

variable {w : IntegerWidth} {n m bound : Nat} {i : Int} {overflow : IntegerError} {cs : List Char}

private theorem le_ofDigitChars (cs : List Char) (n : Nat) : n ≤ Nat.ofDigitChars 10 cs n := by
  induction cs generalizing n with
  | nil => simp
  | cons c cs ih =>
    rw [Nat.ofDigitChars_cons]
    exact Nat.le_trans (by omega) (ih _)

private theorem readDigits_eq (hd : ∀ c ∈ cs, c.isDigit = true)
    (hb : Nat.ofDigitChars 10 cs n ≤ bound) :
    readDigits bound overflow n cs = .ok (Nat.ofDigitChars 10 cs n) := by
  induction cs generalizing n with
  | nil => rw [readDigits, Nat.ofDigitChars_nil]
  | cons c cs ih =>
    rw [Nat.ofDigitChars_cons] at hb ⊢
    have hc : c.isDigit = true := hd c List.mem_cons_self
    have hstep := Nat.le_trans (le_ofDigitChars cs _) hb
    rw [readDigits, hc, if_neg (by simp), if_neg (Nat.not_lt.mpr hstep)]
    exact ih (fun c hc => hd c (List.mem_cons_of_mem _ hc)) hb

private theorem digits_of_readDigits (h : readDigits bound overflow n cs = .ok m) (hn : n ≤ bound) :
    (∀ c ∈ cs, c.isDigit = true) ∧ m = Nat.ofDigitChars 10 cs n ∧ m ≤ bound := by
  induction cs generalizing n with
  | nil =>
    cases h
    exact ⟨List.forall_mem_nil _, Nat.ofDigitChars_nil.symm, hn⟩
  | cons c cs ih =>
    rw [readDigits] at h
    split at h
    · cases h
    · rename_i hc
      split at h
      · cases h
      · obtain ⟨hdigits, hm⟩ := ih h (by omega)
        rw [Nat.ofDigitChars_cons]
        exact ⟨List.forall_mem_cons.mpr ⟨by simpa using hc, hdigits⟩, hm⟩

/-- A magnitude is written in one or more digits and keeps to its bound. -/
theorem readMagnitude_eq_ok_iff :
    readMagnitude bound overflow cs = .ok m ↔
      cs ≠ [] ∧ (∀ c ∈ cs, c.isDigit = true) ∧ m = Nat.ofDigitChars 10 cs 0 ∧ m ≤ bound := by
  cases cs with
  | nil => simp [readMagnitude]
  | cons c cs =>
    rw [readMagnitude]
    · constructor
      · intro h
        exact ⟨List.cons_ne_nil c cs, digits_of_readDigits h (Nat.zero_le _)⟩
      · intro h
        obtain ⟨-, hdigits, hm, hbound⟩ := h
        subst hm
        exact readDigits_eq hdigits hbound
    · simp

/-- A decimal spelling of an integer: one or more digits, with a sign in front or without. -/
inductive IsDecimal : List Char → Int → Prop
  | unsigned {digits : List Char} (hne : digits ≠ []) (hdigits : ∀ c ∈ digits, c.isDigit = true) :
      IsDecimal digits (Nat.ofDigitChars 10 digits 0)
  | plus {digits : List Char} (hne : digits ≠ []) (hdigits : ∀ c ∈ digits, c.isDigit = true) :
      IsDecimal ('+' :: digits) (Nat.ofDigitChars 10 digits 0)
  | minus {digits : List Char} (hne : digits ≠ []) (hdigits : ∀ c ∈ digits, c.isDigit = true) :
      IsDecimal ('-' :: digits) (-Nat.ofDigitChars 10 digits 0)

private theorem magnitude_eq_ok_iff {f : Int → Int} :
    (do let m ← readMagnitude bound overflow cs; pure (m : Int)).map f = .ok i ↔
      cs ≠ [] ∧ (∀ c ∈ cs, c.isDigit = true) ∧ i = f (Nat.ofDigitChars 10 cs 0) ∧
        Nat.ofDigitChars 10 cs 0 ≤ bound := by
  simp only [map_eq_ok_iff, bind_eq_ok_iff, readMagnitude_eq_ok_iff]
  constructor
  · rintro ⟨_, ⟨m, ⟨hne, hdigits, rfl, hbound⟩, ⟨⟩⟩, hi⟩
    exact ⟨hne, hdigits, hi.symm, hbound⟩
  · rintro ⟨hne, hdigits, rfl, hbound⟩
    exact ⟨_, ⟨_, ⟨hne, hdigits, rfl, hbound⟩, rfl⟩, rfl⟩

private theorem one_le_limit (w : IntegerWidth) : 1 ≤ w.limit := by
  cases w <;> decide

private theorem fits_natCast_iff : w.Fits (n : Int) ↔ n ≤ w.limit - 1 := by
  have hlimit := one_le_limit w
  unfold IntegerWidth.Fits
  omega

private theorem fits_neg_iff : w.Fits (-(n : Int)) ↔ n ≤ w.limit := by
  have hlimit := one_le_limit w
  unfold IntegerWidth.Fits
  omega

/-- Digits without a sign are read as the number that they denote if the width has room for it. -/
theorem readInteger_digits_iff (hdigits : ∀ c ∈ cs, c.isDigit = true) :
    readInteger w cs = .ok i ↔
      cs ≠ [] ∧ i = Nat.ofDigitChars 10 cs 0 ∧ Nat.ofDigitChars 10 cs 0 ≤ w.limit - 1 := by
  unfold readInteger
  split
  · simp
  · cases hdigits '-' List.mem_cons_self
  · cases hdigits '+' List.mem_cons_self
  · rw [magnitude_eq_ok_iff, and_iff_right hdigits]

/-- Decimal spellings of integers that fit are read, and nothing else. -/
theorem readInteger_eq_ok_iff : readInteger w cs = .ok i ↔ IsDecimal cs i ∧ w.Fits i := by
  constructor
  · intro h
    unfold readInteger at h
    split at h
    · cases h
    · obtain ⟨hne, hdigits, rfl, hbound⟩ := magnitude_eq_ok_iff.mp h
      exact ⟨.minus hne hdigits, fits_neg_iff.mpr hbound⟩
    · obtain ⟨hne, hdigits, rfl, hbound⟩ := magnitude_eq_ok_iff.mp h
      exact ⟨.plus hne hdigits, fits_natCast_iff.mpr hbound⟩
    · obtain ⟨hne, hdigits, rfl, hbound⟩ := magnitude_eq_ok_iff.mp h
      exact ⟨.unsigned hne hdigits, fits_natCast_iff.mpr hbound⟩
  · rintro ⟨h, hfits⟩
    cases h with
    | unsigned hne hdigits =>
      exact (readInteger_digits_iff hdigits).mpr ⟨hne, rfl, fits_natCast_iff.mp hfits⟩
    | plus hne hdigits =>
      exact magnitude_eq_ok_iff.mpr ⟨hne, hdigits, rfl, fits_natCast_iff.mp hfits⟩
    | minus hne hdigits =>
      exact magnitude_eq_ok_iff.mpr ⟨hne, hdigits, rfl, fits_neg_iff.mp hfits⟩

/-- An integer is written in decimal. -/
theorem isDecimal_digitsOfInt (n : Int) : IsDecimal (digitsOfInt n) n := by
  have hne (n : Nat) : digitsOfNat n ≠ [] := Nat.toDigits_ne_nil
  have hdigits (n : Nat) : ∀ c ∈ digitsOfNat n, c.isDigit = true :=
    fun c hc => Nat.isDigit_of_mem_toDigits (by decide) (by decide) hc
  have hvalue (n : Nat) : Nat.ofDigitChars 10 (digitsOfNat n) 0 = n :=
    Nat.ofDigitChars_ten_toDigits
  cases n with
  | ofNat n =>
    have h := IsDecimal.unsigned (hne n) (hdigits n)
    rwa [hvalue] at h
  | negSucc n =>
    have h := IsDecimal.minus (hne (n + 1)) (hdigits (n + 1))
    rwa [hvalue] at h

/-- What is written of an integer that fits is read back. -/
theorem readInteger_digitsOfInt (h : w.Fits i) : readInteger w (digitsOfInt i) = .ok i :=
  readInteger_eq_ok_iff.mpr ⟨isDecimal_digitsOfInt i, h⟩

/-- Only integers that fit are read. -/
theorem fits_of_readInteger (h : readInteger w cs = .ok i) : w.Fits i :=
  (readInteger_eq_ok_iff.mp h).2

end FieldGate
