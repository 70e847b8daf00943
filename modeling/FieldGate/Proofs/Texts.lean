import FieldGate.Schema.Builder
import Mathlib.Data.List.TakeWhile

/-! Texts that are cut into parts, and the characters of identifiers: none of them is blank, and
none separates the parts of a reference. -/
namespace FieldGate

namespace Text

variable {sep : Char} {cs : List Char}

theorem splitOn_eq_list_splitOn (sep : Char) (cs : List Char) :
    splitOn sep cs = cs.splitOn sep := by
  induction cs with
  | nil => simp [splitOn]
  | cons c cs ih =>
    rw [splitOn, ih, List.splitOn_cons_eq_if_modifyHead]
    by_cases h : c = sep
    · simp [h]
    · cases hp : cs.splitOn sep with
      | nil => exact absurd hp (List.splitOn_ne_nil sep cs)
      | cons part parts => simp [h]

theorem splitOn_ne_nil : splitOn sep cs ≠ [] := by
  rw [splitOn_eq_list_splitOn]
  exact List.splitOn_ne_nil sep cs

/-- A separator parts what stands before it from what stands after it. -/
theorem splitOn_append_cons (cs ds : List Char) :
    splitOn sep (cs ++ sep :: ds) = splitOn sep cs ++ splitOn sep ds := by
  simp only [splitOn_eq_list_splitOn, List.splitOn_append_cons_self]

theorem splitOn_of_notMem (h : sep ∉ cs) : splitOn sep cs = [cs] := by
  rw [splitOn_eq_list_splitOn]
  exact List.splitOn_eq_singleton h

theorem intercalate_splitOn (sep : Char) (cs : List Char) :
    [sep].intercalate (splitOn sep cs) = cs := by
  rw [splitOn_eq_list_splitOn, List.intercalate_splitOn]

theorem intercalate_cons (sep part : List Char) (parts : List (List Char)) :
    sep.intercalate (part :: parts) = part ++ parts.flatMap (sep ++ ·) := by
  induction parts generalizing part with
  | nil => simp
  | cons next parts ih =>
    rw [List.intercalate_cons_cons, ih]
    simp

theorem mem_intercalate_of_mem {parts : List (List Char)} {part : List Char} {c : Char}
    (sep : List Char) (hpart : part ∈ parts) (hc : c ∈ part) : c ∈ sep.intercalate parts := by
  cases parts with
  | nil => cases hpart
  | cons first parts =>
    rw [intercalate_cons, List.mem_append, List.mem_flatMap]
    rcases List.mem_cons.mp hpart with rfl | hpart
    · exact .inl hc
    · exact .inr ⟨part, hpart, List.mem_append_right _ hc⟩

theorem mem_or_mem_of_mem_intercalate {parts : List (List Char)} {sep : List Char} {c : Char}
    (hc : c ∈ sep.intercalate parts) : c ∈ sep ∨ ∃ part ∈ parts, c ∈ part := by
  cases parts with
  | nil => simp at hc
  | cons first parts =>
    rw [intercalate_cons, List.mem_append, List.mem_flatMap] at hc
    rcases hc with hc | ⟨part, hpart, hc⟩
    · exact .inr ⟨first, List.mem_cons_self, hc⟩
    · rcases List.mem_append.mp hc with hc | hc
      · exact .inl hc
      · exact .inr ⟨part, List.mem_cons_of_mem _ hpart, hc⟩

/-- No part has a separator in it. -/
theorem notMem_of_mem_splitOn {part : List Char} (h : part ∈ splitOn sep cs) : sep ∉ part := by
  induction cs generalizing part with
  | nil =>
    rw [splitOn, List.mem_singleton] at h
    simp [h]
  | cons c cs ih =>
    rw [splitOn] at h
    split at h
    · rcases List.mem_cons.mp h with rfl | h
      · simp
      · exact ih h
    · rename_i hc
      split at h
      · rename_i hnil
        exact absurd hnil splitOn_ne_nil
      · rename_i first rest hparts
        rcases List.mem_cons.mp h with rfl | h
        · have hfirst := ih (hparts ▸ List.mem_cons_self)
          simp [Ne.symm hc, hfirst]
        · exact ih (hparts ▸ List.mem_cons_of_mem _ h)

/-- Computing a test on a given list shows that it fails on each of its characters. -/
theorem eq_false_of_all {p : Char → Bool} (h : cs.all (!p ·) = true) :
    ∀ c ∈ cs, p c = false := by
  intro c hc
  exact (Bool.not_eq_true' _).mp (List.all_eq_true.mp h c hc)

/-- What is taken while a test holds, before something that fails it. -/
theorem takeWhile_append_of_stop {p : Char → Bool} {ds : List Char} (hcs : ∀ c ∈ cs, p c = true)
    (hds : ∀ d ∈ ds.head?, p d = false) : (cs ++ ds).takeWhile p = cs := by
  rw [List.takeWhile_append_of_pos hcs]
  cases ds with
  | nil => simp
  | cons d ds => simp [hds d rfl]

/-- A text splits where a test first fails. -/
theorem exists_append_stop (p : Char → Bool) (cs : List Char) :
    ∃ before after, cs = before ++ after ∧ (∀ c ∈ before, p c = true) ∧
      ∀ c ∈ after.head?, p c = false := by
  induction cs with
  | nil => exact ⟨[], [], rfl, by simp, by simp⟩
  | cons c cs ih =>
    by_cases hc : p c = true
    · obtain ⟨before, after, rfl, hb, ha⟩ := ih
      exact ⟨c :: before, after, rfl, List.forall_mem_cons.mpr ⟨hc, hb⟩, ha⟩
    · exact ⟨[], c :: cs, rfl, by simp, by simpa using hc⟩

/-- There is one way to cut a text after a part that passes a test, before a character that fails
it. -/
theorem exists_cut_iff {p : Char → Bool} {q : Char} {P : List Char → Prop}
    {before after rest : List Char} (hbefore : ∀ c ∈ before, p c = true)
    (hafter : ∀ c ∈ after.head?, p c = false) (hq : p q = false) :
    (∃ part, before ++ after = part ++ q :: rest ∧ (∀ c ∈ part, p c = true) ∧ P part) ↔
      after = q :: rest ∧ P before := by
  constructor
  · rintro ⟨part, heq, hpart, hP⟩
    have hspan : (part ++ q :: rest).takeWhile p = part :=
      takeWhile_append_of_stop hpart (by simpa using hq)
    obtain rfl : part = before := by
      rw [← hspan, ← heq, takeWhile_append_of_stop hbefore hafter]
    exact ⟨List.append_cancel_left heq, hP⟩
  · rintro ⟨rfl, hP⟩
    exact ⟨before, rfl, hbefore, hP⟩

theorem withoutBlanks_cons_of_isBlank {c : Char} (h : Unicode.isBlank c = true) (cs : List Char) :
    withoutBlanks (c :: cs) = withoutBlanks cs := by
  simp [withoutBlanks, h]

theorem withoutBlanks_cons_of_not {c : Char} (h : Unicode.isBlank c = false) (cs : List Char) :
    withoutBlanks (c :: cs) = c :: withoutBlanks cs := by
  simp [withoutBlanks, h]

theorem withoutBlanks_append (cs ds : List Char) :
    withoutBlanks (cs ++ ds) = withoutBlanks cs ++ withoutBlanks ds := List.filter_append cs ds

theorem withoutBlanks_eq_nil (h : ∀ c ∈ cs, Unicode.isBlank c = true) : withoutBlanks cs = [] := by
  simpa [withoutBlanks] using h

theorem withoutBlanks_eq_self (h : ∀ c ∈ cs, Unicode.isBlank c = false) :
    withoutBlanks cs = cs := by
  simpa [withoutBlanks] using h

theorem withoutBlanks_ne_nil_iff : withoutBlanks cs ≠ [] ↔ ∃ c ∈ cs, Unicode.isBlank c = false := by
  simp [withoutBlanks]

/-- A text, which may be empty, has no blank at either end. -/
def Bare (text : List Char) : Prop :=
  (∀ c ∈ text.head?, Unicode.isBlank c = false) ∧ ∀ c ∈ text.getLast?, Unicode.isBlank c = false

theorem Bare.append {text text' : List Char} (h : Bare text) (h' : Bare text') :
    Bare (text ++ text') := by
  constructor
  · intro c hc
    rw [List.head?_append] at hc
    cases hhead : text.head? with
    | none =>
      rw [hhead, Option.none_or] at hc
      exact h'.1 c hc
    | some d =>
      rw [hhead, Option.some_or] at hc
      exact h.1 c (hhead.trans hc)
  · intro c hc
    rw [List.getLast?_append] at hc
    cases hlast : text'.getLast? with
    | none =>
      rw [hlast, Option.none_or] at hc
      exact h.2 c hc
    | some d =>
      rw [hlast, Option.some_or] at hc
      exact h'.2 c (hlast.trans hc)

theorem bare_of_forall {text : List Char} (h : ∀ c ∈ text, Unicode.isBlank c = false) :
    Bare text :=
  ⟨fun c hc => h c (List.mem_of_head? hc), fun c hc => h c (List.mem_of_getLast? hc)⟩

theorem bare_enclosed {a b : Char} (ha : Unicode.isBlank a = false)
    (hb : Unicode.isBlank b = false) (body : List Char) : Bare (a :: (body ++ [b])) := by
  constructor
  · rintro c ⟨⟩
    exact ha
  · intro c hc
    rw [← List.cons_append, List.getLast?_concat] at hc
    cases hc
    exact hb

private theorem dropWhile_eq_self (h : ∀ c ∈ cs.head?, Unicode.isBlank c = false) :
    cs.dropWhile Unicode.isBlank = cs := by
  cases cs with
  | nil => rfl
  | cons c cs => rw [List.dropWhile_cons_of_neg (by simp [h c rfl])]

/-- What is trimmed off the end are blanks. -/
theorem exists_trimmedRight (cs : List Char) :
    ∃ trailing, cs = trimRight cs ++ trailing ∧ ∀ c ∈ trailing, Unicode.isBlank c = true := by
  refine ⟨(cs.reverse.takeWhile Unicode.isBlank).reverse, ?_, ?_⟩
  · rw [trimRight, ← List.reverse_append, List.takeWhile_append_dropWhile, List.reverse_reverse]
  · intro c hc
    exact List.mem_takeWhile_imp (List.mem_reverse.mp hc)

/-- Blanks are trimmed off the end of what stands after a text that does not end with one. -/
theorem trimRight_append {text : List Char}
    (h : ∀ c ∈ text.getLast?, Unicode.isBlank c = false) (rest : List Char) :
    trimRight (text ++ rest) = text ++ trimRight rest := by
  have hself : text.reverse.dropWhile Unicode.isBlank = text.reverse :=
    dropWhile_eq_self (by simpa only [List.head?_reverse] using h)
  rw [trimRight, trimRight, List.reverse_append, List.dropWhile_append, hself]
  split
  · rename_i hempty
    rw [List.isEmpty_iff.mp hempty]
    simp
  · simp

/-- Blanks in front of a text, and after it, are trimmed. -/
theorem trim_append {lead text : List Char} (hlead : ∀ c ∈ lead, Unicode.isBlank c = true)
    (hne : text ≠ []) (h : Bare text) (rest : List Char) :
    trim (lead ++ (text ++ rest)) = text ++ trimRight rest := by
  have hself : (text ++ rest).dropWhile Unicode.isBlank = text ++ rest := by
    apply dropWhile_eq_self
    intro c hc
    obtain ⟨a, more, rfl⟩ := List.exists_cons_of_ne_nil hne
    exact h.1 c hc
  rw [trim, trimLeft, List.dropWhile_append_of_pos hlead, hself, trimRight_append h.2]

/-- A text that neither begins nor ends with a blank has nothing to be trimmed. -/
theorem Bare.trim_eq_self (h : Bare cs) : trim cs = cs := by
  have hright := trimRight_append h.2 []
  rw [List.append_nil] at hright
  rw [trim, trimLeft, dropWhile_eq_self h.1, hright]
  exact List.append_nil cs

end Text

theorem isIdentifierPart_of_isIdentifierStart {c : Char} (h : isIdentifierStart c = true) :
    isIdentifierPart c = true := by
  simp only [isIdentifierStart, isIdentifierPart, Bool.or_eq_true] at h ⊢
  exact h.imp_left (.imp_left Unicode.isAlphanumeric_of_isAlphabetic)

theorem isIdentifierPart_of_mem {name : List Char} (h : isIdentifier name = true) {c : Char}
    (hc : c ∈ name) : isIdentifierPart c = true := by
  cases name with
  | nil => cases hc
  | cons a rest =>
    obtain ⟨ha, hrest⟩ := Bool.and_eq_true_iff.mp h
    rcases List.mem_cons.mp hc with rfl | hc
    · exact isIdentifierPart_of_isIdentifierStart ha
    · exact List.all_eq_true.mp hrest c hc

/-- The signs that part a reference are in no identifier. -/
theorem isIdentifierPart_sign :
    ∀ c ∈ ['.', '#', '(', '['], isIdentifierPart c = false :=
  Text.eq_false_of_all (by decide +kernel)

theorem notMem_of_isIdentifier {name : List Char} (h : isIdentifier name = true) {c : Char}
    (hc : isIdentifierPart c = false) : c ∉ name := by
  intro hmem
  rw [isIdentifierPart_of_mem h hmem] at hc
  cases hc

namespace Unicode

namespace Ranges

variable {r : Ranges} {lo hi n : Nat}

theorem exists_of_has (h : r.has n = true) : ∃ p ∈ r, p.1 ≤ n ∧ n ≤ p.2 := by
  induction r with
  | nil => cases h
  | cons p r ih =>
    obtain ⟨lo, hi⟩ := p
    rw [has] at h
    split at h
    · cases h
    · rename_i hlo
      rcases Bool.or_eq_true_iff.mp h with hhi | hrest
      · exact ⟨(lo, hi), List.mem_cons_self, Nat.le_of_not_lt hlo, of_decide_eq_true hhi⟩
      · obtain ⟨p, hp, hn⟩ := ih hrest
        exact ⟨p, List.mem_cons_of_mem _ hp, hn⟩

def misses (lo hi : Nat) : Ranges → Bool
  | [] => true
  | (a, b) :: rest => Nat.blt hi a || Nat.blt b lo && misses lo hi rest

theorem has_eq_false_of_misses (h : r.misses lo hi = true) (hlo : lo ≤ n) (hhi : n ≤ hi) :
    r.has n = false := by
  induction r with
  | nil => rfl
  | cons p r ih =>
    obtain ⟨a, b⟩ := p
    simp only [misses, Bool.or_eq_true, Bool.and_eq_true, Nat.blt_eq] at h
    rw [has]
    split
    · rfl
    · obtain ⟨hb, hrest⟩ := h.resolve_left (by omega)
      simp only [ih hrest, Bool.or_false, decide_eq_false_iff_not]
      omega

end Ranges

def nameTables : List Ranges :=
  (.letterNumber :: Category.letters).map Category.ranges ++ [otherAlphabetic, addedAlphabetic] ++
    (Category.numbers.map Category.ranges ++ [addedNumbers])

theorem isAlphanumeric_eq_any (c : Char) :
    isAlphanumeric c = nameTables.any fun r => r.has c.toNat := by
  simp only [isAlphanumeric, isAlphabetic, isNumeric, Category.anyHas, nameTables,
    List.any_append, List.any_map, List.any_cons, List.any_nil, Bool.or_false, Bool.or_assoc]
  rfl

/-- No blank is a letter or a number. -/
theorem isAlphanumeric_eq_false_of_isBlank {c : Char} (h : isBlank c = true) :
    isAlphanumeric c = false := by
  have htables : ∀ p ∈ whiteSpace, ∀ r ∈ nameTables, r.misses p.1 p.2 = true := by decide +kernel
  obtain ⟨p, hp, hlo, hhi⟩ := Ranges.exists_of_has h
  rw [isAlphanumeric_eq_any, List.any_eq_false]
  intro r hr
  rw [Ranges.has_eq_false_of_misses (htables p hp r hr) hlo hhi]
  exact Bool.false_ne_true

end Unicode

theorem isBlank_space : Unicode.isBlank ' ' = true := by decide +kernel

/-- The signs that stand in references are no blanks. -/
theorem isBlank_sign :
    ∀ c ∈ ['.', '#', '(', ')', '[', ']', ',', '_', '$'], Unicode.isBlank c = false :=
  Text.eq_false_of_all (by decide +kernel)

/-- No identifier has a blank in it. -/
theorem isIdentifierPart_eq_false_of_isBlank {c : Char} (h : Unicode.isBlank c = true) :
    isIdentifierPart c = false := by
  have hscore := isBlank_sign '_' (by simp)
  have hdollar := isBlank_sign '$' (by simp)
  have hne {d : Char} (hd : Unicode.isBlank d = false) : (c == d) = false := by
    refine beq_false_of_ne ?_
    rintro rfl
    rw [hd] at h
    cases h
  rw [isIdentifierPart, Unicode.isAlphanumeric_eq_false_of_isBlank h, hne hscore, hne hdollar]
  rfl

theorem isIdentifierStart_eq_false_of_isBlank {c : Char} (h : Unicode.isBlank c = true) :
    isIdentifierStart c = false := by
  apply Bool.eq_false_iff.mpr
  intro hstart
  have hpart := isIdentifierPart_of_isIdentifierStart hstart
  rw [isIdentifierPart_eq_false_of_isBlank h] at hpart
  cases hpart

theorem isBlank_eq_false_of_isIdentifierPart {c : Char} (h : isIdentifierPart c = true) :
    Unicode.isBlank c = false := by
  cases hb : Unicode.isBlank c with
  | false => rfl
  | true =>
    rw [isIdentifierPart_eq_false_of_isBlank hb] at h
    cases h

end FieldGate
