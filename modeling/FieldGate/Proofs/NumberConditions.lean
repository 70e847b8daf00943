import FieldGate.Condition
import FieldGate.Pattern.Engine
import FieldGate.Proofs.Integers
import FieldGate.Proofs.Texts

/-! Conditions on numbers. All blanks are dropped before an operator is looked for, so a condition
on an integer is an operator, or none, before a decimal spelling, and the two characters of an
operator are found even where blanks keep them apart. -/
namespace FieldGate

namespace Unicode

theorem isBlank_eq_false_of_isDigit {c : Char} (h : c.isDigit = true) : isBlank c = false := by
  have hmisses : whiteSpace.misses 48 57 = true := by decide
  simp only [Char.isDigit, Bool.and_eq_true, decide_eq_true_eq, ge_iff_le, UInt32.le_iff_toNat_le]
    at h
  exact Ranges.has_eq_false_of_misses hmisses h.1 h.2

/-- The characters of operators and the signs of integers are no blanks. -/
theorem isBlank_operator : ∀ c ∈ ['=', '!', '>', '<', '+', '-'], isBlank c = false :=
  Text.eq_false_of_all (by decide +kernel)

end Unicode

namespace Text

open Unicode (isBlank)

variable {cs text : List Char}

/-- A text with blanks put in anywhere. -/
inductive Spread : List Char → List Char → Prop
  | nil : Spread [] []
  | blank {b : Char} {cs text : List Char} (hb : isBlank b = true) (h : Spread cs text) :
      Spread cs (b :: text)
  | keep (c : Char) {cs text : List Char} (h : Spread cs text) : Spread (c :: cs) (c :: text)

/-- Every text is made of its other characters by putting blanks in. -/
theorem spread_withoutBlanks (text : List Char) : Spread (withoutBlanks text) text := by
  induction text with
  | nil => exact .nil
  | cons c text ih =>
    cases hc : isBlank c with
    | true =>
      rw [withoutBlanks_cons_of_isBlank hc]
      exact .blank hc ih
    | false =>
      rw [withoutBlanks_cons_of_not hc]
      exact .keep c ih

/-- The blanks that were put in are dropped again. -/
theorem Spread.withoutBlanks_eq (h : Spread cs text) (hcs : ∀ c ∈ cs, isBlank c = false) :
    withoutBlanks text = cs := by
  induction h with
  | nil => rfl
  | blank hb _ ih => rw [withoutBlanks_cons_of_isBlank hb, ih hcs]
  | keep c _ ih =>
    obtain ⟨hc, hcs⟩ := List.forall_mem_cons.mp hcs
    rw [withoutBlanks_cons_of_not hc, ih hcs]

end Text

namespace Comparison

def Relates (x n : Int) : Comparison → Prop
  | equal => x = n
  | notEqual => x ≠ n
  | greater => x > n
  | atLeast => x ≥ n
  | less => x < n
  | atMost => x ≤ n

theorem holds_compare_iff (op : Comparison) (x n : Int) :
    op.holds (some (compare x n)) = true ↔ op.Relates x n := by
  cases hcompare : compare x n with
  | lt =>
    have h := Int.compare_eq_lt.mp hcompare
    cases op <;> simp [holds, Relates] <;> omega
  | eq =>
    have h := Int.compare_eq_eq.mp hcompare
    cases op <;> simp [holds, Relates] <;> omega
  | gt =>
    have h := Int.compare_eq_gt.mp hcompare
    cases op <;> simp [holds, Relates] <;> omega

def sign : Option Comparison → List Char
  | none => []
  | some op => op.symbol.toList

theorem isBlank_of_mem_sign (op? : Option Comparison) :
    ∀ c ∈ sign op?, Unicode.isBlank c = false := by
  have hsub : ∀ c ∈ sign op?, c ∈ ['=', '!', '>', '<', '+', '-'] := by
    cases op? with
    | none => simp [sign]
    | some op => cases op <;> simp [sign, symbol]
  exact fun c hc => Unicode.isBlank_operator c (hsub c hc)

/-- The texts of operators with what they say of two integers. Without an operator the integers have
to be equal. -/
inductive Says : String → (Int → Int → Prop) → Prop
  | nothing : Says "" (· = ·)
  | equal : Says "==" (· = ·)
  | notEqual : Says "!=" (· ≠ ·)
  | greater : Says ">" (· > ·)
  | atLeast : Says ">=" (· ≥ ·)
  | less : Says "<" (· < ·)
  | atMost : Says "<=" (· ≤ ·)

/-- What an operator says of integers is what comparing by it comes to. -/
theorem Says.exists_sign {text : String} {relates : Int → Int → Prop} (h : Says text relates) :
    ∃ op?, text.toList = sign op? ∧
      ∀ x n, (op?.getD Comparison.equal).holds (some (compare x n)) = true ↔ relates x n := by
  cases h with
  | nothing => exact ⟨none, rfl, holds_compare_iff .equal⟩
  | equal => exact ⟨some .equal, rfl, holds_compare_iff .equal⟩
  | notEqual => exact ⟨some .notEqual, rfl, holds_compare_iff .notEqual⟩
  | greater => exact ⟨some .greater, rfl, holds_compare_iff .greater⟩
  | atLeast => exact ⟨some .atLeast, rfl, holds_compare_iff .atLeast⟩
  | less => exact ⟨some .less, rfl, holds_compare_iff .less⟩
  | atMost => exact ⟨some .atMost, rfl, holds_compare_iff .atMost⟩

theorem exists_says (op? : Option Comparison) :
    ∃ text relates, Says text relates ∧ text.toList = sign op? := by
  cases op? with
  | none => exact ⟨_, _, .nothing, rfl⟩
  | some op =>
    cases op with
    | equal => exact ⟨_, _, .equal, rfl⟩
    | notEqual => exact ⟨_, _, .notEqual, rfl⟩
    | greater => exact ⟨_, _, .greater, rfl⟩
    | atLeast => exact ⟨_, _, .atLeast, rfl⟩
    | less => exact ⟨_, _, .less, rfl⟩
    | atMost => exact ⟨_, _, .atMost, rfl⟩

/-- An operator of two characters is taken off. -/
theorem split_of_two {op : Comparison} {first second : Char}
    (h : op.symbol.toList = [first, second]) (rest : List Char) :
    split (first :: second :: rest) = (op, rest) := by
  cases op with
  | equal | notEqual | atLeast | atMost =>
    cases h
    rfl
  | greater | less => cases h

/-- An operator, or none, is taken off what does not go on like one. -/
theorem split_append (op? : Option Comparison) {rest : List Char}
    (h : ∀ c ∈ rest.head?, c ∉ ['=', '!', '>', '<']) :
    split (sign op? ++ rest) = (op?.getD equal, rest) := by
  cases rest with
  | nil => cases op? with
    | none => rfl
    | some op => cases op <;> rfl
  | cons c rest =>
    have hc := h c rfl
    simp only [List.mem_cons, not_or] at hc
    cases op? with
    | none => simp [split, sign, symbol, Text.after?, hc, eq_comm]
    | some op => cases op <;> simp [split, sign, symbol, Text.after?, hc, eq_comm]

/-- What is taken off a text is an operator or nothing. -/
theorem exists_sign_append_split (cs : List Char) :
    ∃ op?, cs = sign op? ++ (split cs).2 ∧ (split cs).1 = op?.getD equal := by
  unfold split
  split
  · rename_i found hfound
    obtain ⟨op, -, hop⟩ := List.exists_of_findSome?_eq_some hfound
    obtain ⟨rest, hrest, rfl⟩ := Option.map_eq_some_iff.mp hop
    exact ⟨some op, Text.after?_eq_some_iff.mp hrest, rfl⟩
  · exact ⟨none, rfl, rfl⟩

end Comparison

namespace IsDecimal

variable {spelling : List Char} {n : Int}

/-- A spelling begins with a digit or a sign. -/
theorem exists_cons (h : IsDecimal spelling n) :
    ∃ c rest, spelling = c :: rest ∧ (c.isDigit = true ∨ c = '+' ∨ c = '-') ∧
      ∀ d ∈ rest, d.isDigit = true := by
  cases h with
  | plus _ hdigits => exact ⟨_, _, rfl, .inr (.inl rfl), hdigits⟩
  | minus _ hdigits => exact ⟨_, _, rfl, .inr (.inr rfl), hdigits⟩
  | unsigned hne hdigits =>
    obtain ⟨c, rest, rfl⟩ := List.exists_cons_of_ne_nil hne
    obtain ⟨hc, hrest⟩ := List.forall_mem_cons.mp hdigits
    exact ⟨c, rest, rfl, .inl hc, hrest⟩

theorem isBlank_of_mem (h : IsDecimal spelling n) :
    ∀ c ∈ spelling, Unicode.isBlank c = false := by
  obtain ⟨c, rest, rfl, hc, hrest⟩ := h.exists_cons
  refine List.forall_mem_cons.mpr
    ⟨?_, fun d hd => Unicode.isBlank_eq_false_of_isDigit (hrest d hd)⟩
  rcases hc with hc | rfl | rfl
  · exact Unicode.isBlank_eq_false_of_isDigit hc
  · exact Unicode.isBlank_operator '+' (by simp)
  · exact Unicode.isBlank_operator '-' (by simp)

/-- No spelling begins like an operator. -/
theorem head?_notMem (h : IsDecimal spelling n) :
    ∀ c ∈ spelling.head?, c ∉ ['=', '!', '>', '<'] := by
  obtain ⟨c, rest, rfl, hc, -⟩ := h.exists_cons
  rintro d ⟨⟩ hd
  have hdigit : ∀ c ∈ ['=', '!', '>', '<'], c.isDigit = false :=
    Text.eq_false_of_all (by decide)
  rcases hc with hc | rfl | rfl
  · rw [hdigit c hd] at hc
    cases hc
  · simp at hd
  · simp at hd

end IsDecimal

namespace IntegerWidth

variable {w : IntegerWidth} {n : Int} {cs : List Char}

def kind : IntegerWidth → NumberKind
  | w16 => .int16
  | w32 => .int32
  | w64 => .int64

def number (n : Int) : IntegerWidth → Number
  | w16 => .int16 (.ofInt n)
  | w32 => .int32 (.ofInt n)
  | w64 => .int64 (.ofInt n)

theorem toInt?_number (h : w.Fits n) : (w.number n).toInt? = some n := by
  obtain ⟨hlo, hhi⟩ := h
  cases w with
  | w16 => exact congrArg some (Int16.toInt_ofInt_of_le hlo hhi)
  | w32 => exact congrArg some (Int32.toInt_ofInt_of_le hlo hhi)
  | w64 => exact congrArg some (Int64.toInt_ofInt_of_le hlo hhi)

/-- The numbers of the width are read in decimal. -/
theorem read_eq_ok_iff {m : Number} :
    Number.read w.kind cs = .ok m ↔ ∃ n, (IsDecimal cs n ∧ w.Fits n) ∧ w.number n = m := by
  simp only [← readInteger_eq_ok_iff]
  cases w <;> simp only [kind, Number.read, number, mapError_eq_ok_iff, map_eq_ok_iff]

end IntegerWidth

namespace Condition

open Unicode (isBlank)

variable {literal : String} {op : Comparison} {number : List Char} {kind : NumberKind} {n : Number}
  {e : NumberError}

/-- A condition on a number is made of the operator and the number in the text without blanks. -/
theorem ofNumber_of_ok
    (hsplit : Comparison.split (Text.withoutBlanks literal.toList) = (op, number))
    (hn : Number.read kind number = .ok n) : ofNumber kind literal = .ok (.compares op n) := by
  simp only [ofNumber, hsplit, hn]

/-- Without a number the text is refused as it was declared. -/
theorem ofNumber_of_error
    (hsplit : Comparison.split (Text.withoutBlanks literal.toList) = (op, number))
    (he : Number.read kind number = .error e) :
    ofNumber kind literal = .error (.invalidNumber literal kind.name e) := by
  simp only [ofNumber, hsplit, he]

theorem matches?_compares {m x : Number} {i k : Int} (hm : m.toInt? = some k)
    (hx : x.toInt? = some i) (target : String) :
    (compares op m).matches? target (.number x) = .ok (op.holds (some (compare i k))) := by
  have hcompare : x.compare? m = some (compare i k) := by
    rw [Number.compare?, hx, hm]
  rw [← hcompare]
  rfl

section Engine

variable [PatternEngine]

/-- An operator, or none, before a decimal spelling of an integer that fits, with blanks anywhere
but inside the operator, is a condition, and it holds of exactly the integers that the operator
says. A text that has no such form without its blanks is refused as it was declared. -/
theorem integer_conditions (w : IntegerWidth) :
    (∀ sign relates n spelling lead rest, Comparison.Says sign relates → w.Fits n →
      IsDecimal spelling n → (∀ c ∈ lead, isBlank c = true) → Text.Spread spelling rest →
      ∃ c, ofLiteral (.number w.kind) (String.ofList (lead ++ (sign.toList ++ rest))) = .ok c ∧
        ∀ target x i, x.toInt? = some i →
          ∃ b, c.matches? target (.number x) = .ok b ∧ (b = true ↔ relates i n)) ∧
    ∀ literal : String,
      (¬ ∃ sign relates spelling n, Comparison.Says sign relates ∧
        Text.withoutBlanks literal.toList = sign.toList ++ spelling ∧
          IsDecimal spelling n ∧ w.Fits n) →
      ∃ reason, ofLiteral (.number w.kind) literal =
        .error (.invalidNumber literal w.kind.name reason) := by
  constructor
  · intro sign relates n spelling lead rest hsign hfits hspelling hlead hrest
    obtain ⟨op?, htext, hrelates⟩ := hsign.exists_sign
    rw [htext]
    have hsplit : Comparison.split (Text.withoutBlanks
        (String.ofList (lead ++ (Comparison.sign op? ++ rest))).toList) =
          (op?.getD .equal, spelling) := by
      rw [String.toList_ofList, Text.withoutBlanks_append, Text.withoutBlanks_append,
        Text.withoutBlanks_eq_nil hlead,
        Text.withoutBlanks_eq_self (Comparison.isBlank_of_mem_sign op?),
        hrest.withoutBlanks_eq hspelling.isBlank_of_mem]
      exact Comparison.split_append op? hspelling.head?_notMem
    have hread : Number.read w.kind spelling = .ok (w.number n) :=
      IntegerWidth.read_eq_ok_iff.mpr ⟨n, ⟨hspelling, hfits⟩, rfl⟩
    refine ⟨_, ofNumber_of_ok hsplit hread, ?_⟩
    intro target x i hx
    exact ⟨_, matches?_compares (IntegerWidth.toInt?_number hfits) hx target, hrelates i n⟩
  · intro literal hform
    obtain ⟨op?, hop, -⟩ := Comparison.exists_sign_append_split (Text.withoutBlanks literal.toList)
    cases hread : Number.read w.kind
        (Comparison.split (Text.withoutBlanks literal.toList)).2 with
    | error e => exact ⟨e, ofNumber_of_error rfl hread⟩
    | ok m =>
      obtain ⟨n, hspelled, -⟩ := IntegerWidth.read_eq_ok_iff.mp hread
      obtain ⟨sign, relates, hsays, hsign⟩ := Comparison.exists_says op?
      rw [← hsign] at hop
      exact absurd ⟨sign, relates, _, n, hsays, hop, hspelled⟩ hform

end Engine

open scoped Pattern.Engine

/-- A condition with a sign, leading zeros and blanks holds of ten at any width and not of nine, and
one with two signs is refused. -/
theorem at_least_ten :
    (∃ c, ofLiteral (.number .int16) " >= +0 1 0 " = .ok c ∧
      c.matches? "slider" (.number (.int64 10)) = .ok true ∧
      c.matches? "slider" (.number (.int32 9)) = .ok false) ∧
    ∃ reason, ofLiteral (.number .int16) ">= +-10" =
      .error (.invalidNumber ">= +-10" "i16" reason) := by
  obtain ⟨hread, hrefused⟩ := integer_conditions .w16
  constructor
  · have hten : IsDecimal ['+', '0', '1', '0'] 10 := .plus (by simp) (by simp)
    have hspread : Text.Spread ['+', '0', '1', '0'] " +0 1 0 ".toList :=
      Text.spread_withoutBlanks " +0 1 0 ".toList
    obtain ⟨c, hc, hholds⟩ :=
      hread _ _ 10 _ [' '] _ .atLeast (by decide) hten (List.forall_mem_singleton.mpr isBlank_space)
        hspread
    obtain ⟨b, hb, hten⟩ := hholds "slider" (.int64 10) 10 rfl
    obtain ⟨b', hb', hnine⟩ := hholds "slider" (.int32 9) 9 rfl
    obtain rfl : b = true := hten.mpr (by decide)
    obtain rfl : b' = false := Bool.eq_false_iff.mpr (mt hnine.mp (by decide))
    exact ⟨c, hc, hb, hb'⟩
  · apply hrefused
    rintro ⟨sign, relates, spelling, n, hsays, heq, hspelling, -⟩
    obtain ⟨op?, hsign, -⟩ := hsays.exists_sign
    have hsplit := Comparison.split_append op? hspelling.head?_notMem
    rw [← hsign, ← heq] at hsplit
    obtain rfl : ['+', '-', '1', '0'] = spelling := congrArg Prod.snd hsplit
    cases hspelling with
    | unsigned _ hdigits => cases hdigits '+' (by simp)
    | plus _ hdigits => cases hdigits '-' (by simp)

section Torn

variable {first second : Char} {lead gap : List Char}

/-- Where blanks keep the two characters of an operator apart, the text is refused only if what
follows is no number, and is otherwise read as if they stood together. -/
theorem torn_operator_refused_iff [PatternEngine] (hop : op.symbol.toList = [first, second])
    (hlead : ∀ c ∈ lead, isBlank c = true) (hgap : ∀ c ∈ gap, isBlank c = true)
    (kind : NumberKind) (rest : List Char) :
    let text := String.ofList (lead ++ first :: (gap ++ second :: rest))
    ((∃ reason, ofLiteral (.number kind) text = .error (.invalidNumber text kind.name reason)) ↔
      ∀ n, Number.read kind (Text.withoutBlanks rest) ≠ .ok n) ∧
    ∀ n, Number.read kind (Text.withoutBlanks rest) = .ok n →
      ofLiteral (.number kind) text = .ok (.compares op n) := by
  intro text
  have hsplit : Comparison.split (Text.withoutBlanks text.toList) =
      (op, Text.withoutBlanks rest) := by
    have hsign : Comparison.sign (some op) = [first, second] := hop
    have hnot := Comparison.isBlank_of_mem_sign (some op)
    rw [hsign, List.forall_mem_cons, List.forall_mem_singleton] at hnot
    obtain ⟨hfirst, hsecond⟩ := hnot
    rw [String.toList_ofList, Text.withoutBlanks_append, Text.withoutBlanks_eq_nil hlead,
      List.nil_append, Text.withoutBlanks_cons_of_not hfirst, Text.withoutBlanks_append,
      Text.withoutBlanks_eq_nil hgap, List.nil_append, Text.withoutBlanks_cons_of_not hsecond]
    exact Comparison.split_of_two hop _
  refine ⟨?_, fun n hn => ofNumber_of_ok hsplit hn⟩
  constructor
  · rintro ⟨reason, hreason⟩ n hn
    have hok : ofLiteral (.number kind) text = .ok (.compares op n) := ofNumber_of_ok hsplit hn
    rw [hreason] at hok
    cases hok
  · intro hnone
    cases hread : Number.read kind (Text.withoutBlanks rest) with
    | ok n => exact absurd hread (hnone n)
    | error e => exact ⟨e, ofNumber_of_error hsplit hread⟩

/-- A blank between the two characters makes no difference before a ten, and none before a word
either. -/
theorem torn_at_least_ten :
    ofLiteral (.number .int32) "> = 10" = .ok (.compares .atLeast (.int32 10)) ∧
      ∃ reason, ofLiteral (.number .int32) "> = ten" =
        .error (.invalidNumber "> = ten" "i32" reason) := by
  have hop : Comparison.atLeast.symbol.toList = ['>', '='] := rfl
  have hgap : ∀ c ∈ [' '], isBlank c = true := List.forall_mem_singleton.mpr isBlank_space
  constructor
  · exact (torn_operator_refused_iff hop (List.forall_mem_nil _) hgap .int32 " 10".toList).2 _ rfl
  · apply (torn_operator_refused_iff hop (List.forall_mem_nil _) hgap .int32 " ten".toList).1.mpr
    intro n hn
    cases hn

/-- So not every text with a blank inside its operator is refused. -/
theorem torn_operator_read :
    ¬ ∀ (kind : NumberKind) (op : Comparison) (first second : Char) (lead gap rest : List Char),
      op.symbol.toList = [first, second] → (∀ c ∈ lead, isBlank c = true) → gap ≠ [] →
      (∀ c ∈ gap, isBlank c = true) →
      ∃ text reason, text = String.ofList (lead ++ first :: (gap ++ second :: rest)) ∧
        ofLiteral (.number kind) text = .error (.invalidNumber text kind.name reason) := by
  intro h
  obtain ⟨text, reason, rfl, hrefused⟩ := h .int32 .atLeast '>' '=' [] [' '] " 10".toList rfl
    (List.forall_mem_nil _) (by simp) (List.forall_mem_singleton.mpr isBlank_space)
  have hread : ofLiteral (.number .int32) "> = 10" = .ok (.compares .atLeast (.int32 10)) := rfl
  cases hread.symm.trans hrefused

end Torn

end Condition

end FieldGate
