import FieldGate.Pattern.Engine
import FieldGate.Proofs.DeclaredBounds
import FieldGate.Proofs.Texts

/-! What is reported of a call whose signature has no type variables: every entry that its parameter
does not accept and every literal that cannot be read, each in one line that begins with its
position, in the order of positions. -/
namespace FieldGate

def place (i : Nat) : String := "[" ++ toString i ++ "]: "

def beginsAt (i : Nat) (line : String) : Bool := (place i).toList.isPrefixOf line.toList

def ArgumentDefect.position? : ArgumentDefect → Option Nat
  | mismatch i .. | literal i _ => some i
  | _ => none

private theorem toList_place (i : Nat) :
    (place i).toList = '[' :: (Nat.toDigits 10 i ++ [']', ':', ' ']) := by
  simp [place, String.toList_append]

private theorem takeWhile_digits (i : Nat) (cs : List Char) :
    (Nat.toDigits 10 i ++ ([']', ':', ' '] ++ cs)).takeWhile Char.isDigit =
      Nat.toDigits 10 i := by
  refine Text.takeWhile_append_of_stop (fun c hc => ?_) ?_
  · exact Nat.isDigit_of_mem_toDigits (Nat.succ_pos 9) (Nat.le_refl 10) hc
  · rintro c ⟨⟩
    rfl

private theorem beginsAt_place {i j : Nat} {rest : String} :
    beginsAt i (place j ++ rest) = true ↔ j = i := by
  -- the digits of a position end before the bracket
  rw [beginsAt, List.isPrefixOf_iff_prefix, String.toList_append]
  constructor
  · intro h
    rw [toList_place, toList_place, List.cons_append, List.cons_prefix_cons] at h
    obtain ⟨rest', heq⟩ := h.2
    rw [List.append_assoc, List.append_assoc] at heq
    have hdigits := congrArg (List.takeWhile Char.isDigit) heq
    rw [takeWhile_digits, takeWhile_digits] at hdigits
    calc j = Nat.ofDigitChars 10 (Nat.toDigits 10 j) 0 := Nat.ofDigitChars_ten_toDigits.symm
      _ = Nat.ofDigitChars 10 (Nat.toDigits 10 i) 0 := by rw [hdigits]
      _ = i := Nat.ofDigitChars_ten_toDigits
  · rintro rfl
    exact List.prefix_append _ _

private theorem beginsAt_of_head? {i : Nat} {line : String} (h : line.toList.head? = some 'I') :
    beginsAt i line = false := by
  unfold beginsAt
  rw [toList_place]
  cases hline : line.toList with
  | nil => rfl
  | cons c cs =>
    rw [hline] at h
    cases h
    rfl

private theorem text_mismatch (i : Nat) (p : ParamType) (t : ValueType) :
    (ArgumentDefect.mismatch i p t).text =
      place i ++ ("Expected `" ++ p.name ++ "` found `" ++ t.name ++ "`") := by
  unfold ArgumentDefect.text place
  refine String.toList_injective ?_
  simp [String.toList_append]

private theorem text_literal (i : Nat) (e : ConditionError) :
    (ArgumentDefect.literal i e).text = place i ++ e.message := by
  unfold ArgumentDefect.text place
  rfl

private theorem head?_text {d : ArgumentDefect} (h : d.position? = none) :
    d.text.toList.head? = some 'I' := by
  unfold ArgumentDefect.text
  cases d with
  | mismatch => cases h
  | literal => cases h
  | _ => simp [String.toList_append]

/-- The line of a defect is about the position that the defect names. -/
theorem beginsAt_text_iff {d : ArgumentDefect} {i : Nat} :
    beginsAt i d.text = true ↔ d.position? = some i := by
  cases h : d.position? with
  | none =>
    rw [beginsAt_of_head? (head?_text h)]
    simp
  | some j =>
    rw [Option.some.injEq]
    cases d with
    | mismatch k p t =>
      obtain rfl := Option.some.inj h
      rw [text_mismatch, beginsAt_place]
    | literal k e =>
      obtain rfl := Option.some.inj h
      rw [text_literal, beginsAt_place]
    | _ => cases h


section Order

def ArgumentDefect.Before (d d' : ArgumentDefect) : Prop :=
  ∀ i j, d.position? = some i → d'.position? = some j → i < j

variable {lines : List String} {line : String} {i : Nat}

def InOrder (lines : List String) : Prop :=
  lines.Pairwise fun line line' => ∀ i j, beginsAt i line = true → beginsAt j line' = true → i < j

theorem inOrder_text {defects : List ArgumentDefect}
    (h : defects.Pairwise ArgumentDefect.Before) : InOrder (defects.map ArgumentDefect.text) := by
  refine List.pairwise_map.mpr (h.imp fun hbefore i j hi hj => ?_)
  exact hbefore i j (beginsAt_text_iff.mp hi) (beginsAt_text_iff.mp hj)

/-- There is one line about a position among lines in order. -/
theorem InOrder.filter_eq (h : InOrder lines) (hmem : line ∈ lines)
    (hi : beginsAt i line = true) : lines.filter (beginsAt i) = [line] := by
  have hline : line ∈ lines.filter (beginsAt i) := List.mem_filter.mpr ⟨hmem, hi⟩
  have hall : ∀ l ∈ lines.filter (beginsAt i), beginsAt i l = true :=
    fun l hl => (List.mem_filter.mp hl).2
  have horder := List.Pairwise.filter (beginsAt i) h
  generalize lines.filter (beginsAt i) = about at hline hall horder
  match about with
  | [] => cases hline
  | [l] => rw [List.mem_singleton.mp hline]
  | l :: l' :: rest =>
    have hlt := (List.pairwise_cons.mp horder).1 l' List.mem_cons_self i i
      (hall l List.mem_cons_self) (hall l' (List.mem_cons_of_mem _ List.mem_cons_self))
    exact absurd hlt (Nat.lt_irrefl i)

end Order

namespace Signature

open ValueType

variable {s : Signature} {types : List ValueType} {literals : List String}
  {params : List ParamType} {d : ArgumentDefect} {element p q : ParamType} {t : ValueType}
  {count i k : Nat}

/-- There is a defect for each entry that its position does not accept. -/
theorem mem_checkEntries_iff :
    d ∈ checkEntries k params types ↔ ∃ (i : Nat) (p : ParamType) (t : ValueType),
      params[i]? = some p ∧ types[i]? = some t ∧ p.accepts t = false ∧
        d = .mismatch (k + i) p t := by
  induction params generalizing types k with
  | nil => simp [checkEntries]
  | cons p params ih =>
    cases types with
    | nil => simp [checkEntries]
    | cons t types =>
      rw [checkEntries, List.mem_append, ih]
      refine Iff.trans (or_congr ?_ ?_) Nat.or_exists_add_one
      · cases hp : p.accepts t <;> simp [hp]
      · simp only [List.getElem?_cons_succ, Nat.add_assoc, Nat.add_comm 1]

/-- There is a defect for each literal that cannot be read for its position. -/
theorem mem_checkLiterals_iff [PatternEngine] :
    d ∈ (checkLiterals k params literals).2 ↔
      ∃ (i : Nat) (p : ParamType) (l : String) (e : ConditionError),
        params[i]? = some p ∧ literals[i]? = some l ∧ readLiteral p l = .error e ∧
          d = .literal (k + i) e := by
  induction params generalizing literals k with
  | nil => simp [checkLiterals]
  | cons p params ih =>
    cases literals with
    | nil => simp [checkLiterals]
    | cons l literals =>
      rw [← Nat.or_exists_add_one, checkLiterals]
      simp only [List.getElem?_cons_succ, ← Nat.add_assoc, Nat.add_right_comm _ _ 1, ← ih]
      cases hread : readLiteral p l <;> simp [hread]

theorem pairwise_checkEntries (k : Nat) (params : List ParamType) (types : List ValueType) :
    (checkEntries k params types).Pairwise ArgumentDefect.Before := by
  induction params generalizing types k with
  | nil => exact .nil
  | cons p params ih =>
    cases types with
    | nil => exact .nil
    | cons t types =>
      rw [checkEntries, List.pairwise_append]
      refine ⟨by split <;> simp, ih _ _, ?_⟩
      intro d hd d' hd' i j hi hj
      obtain ⟨n, q, u, -, -, -, rfl⟩ := mem_checkEntries_iff.mp hd'
      split at hd
      · cases hd
      · cases List.mem_singleton.mp hd
        cases hi
        cases hj
        omega

theorem pairwise_checkLiterals [PatternEngine] (k : Nat) (params : List ParamType)
    (literals : List String) :
    (checkLiterals k params literals).2.Pairwise ArgumentDefect.Before := by
  induction params generalizing literals k with
  | nil => exact .nil
  | cons p params ih =>
    cases literals with
    | nil => exact .nil
    | cons l literals =>
      rw [checkLiterals]
      cases readLiteral p l with
      | ok v => exact ih _ _
      | error e =>
        refine List.pairwise_cons.mpr ⟨?_, ih _ _⟩
        intro d hd i j hi hj
        obtain ⟨n, q, l', e', -, -, -, rfl⟩ := mem_checkLiterals_iff.mp hd
        cases hi
        cases hj
        omega

def Concrete (s : Signature) : Prop :=
  ∀ p ∈ s.params ++ s.variadic.toList, ∀ name bound, p ≠ .generic name bound

/-- The entries in variadic position that the element accepts. -/
def acceptedTail (s : Signature) (types : List ValueType) (element : ParamType) : List ValueType :=
  (s.tail types).filter element.accepts

/-- The type that the argument in a position should have: that of a fixed parameter as it is
declared, and past these what the accepted entries there have in common, or the element if there is
nothing. -/
def expected? (s : Signature) (types : List ValueType) (i : Nat) : Option ParamType :=
  if i < s.params.length then s.params[i]?
  else s.variadic.map fun element => (common? (s.acceptedTail types element)).getD element

/-- An entry is in a position whose declared parameter does not accept it. -/
def Rejects (s : Signature) (types : List ValueType) (i : Nat) : Prop :=
  ∃ p t, s.declared? i = some p ∧ types[i]? = some t ∧ p.accepts t = false

def Misreads [PatternEngine] (s : Signature) (types : List ValueType)
    (literals : List String) (i : Nat) : Prop :=
  ∃ p l e, types.length ≤ i ∧ s.expected? types i = some p ∧
    literals[i - types.length]? = some l ∧ readLiteral p l = .error e

/-- The defects of the entries that a variadic element does not accept. -/
def unassignable (s : Signature) (types : List ValueType) : List ArgumentDefect :=
  s.variadic.toList.flatMap fun element =>
    ((s.tail types).filter fun t => !element.accepts t).map (.notAssignable · element)

private theorem bindFixed_of_concrete (b : Bindings)
    (h : ∀ p ∈ params, ∀ name bound, p ≠ .generic name bound) (types : List ValueType) :
    bindFixed b params types = (b, []) := by
  induction params generalizing types with
  | nil => rfl
  | cons p params ih =>
    cases types with
    | nil => rfl
    | cons t types =>
      obtain ⟨hp, h⟩ := List.forall_mem_cons.mp h
      have hone : bindOne b p t = (b, []) := by
        cases p with
        | generic name bound => exact absurd rfl (hp name bound)
        | _ => rfl
      rw [bindFixed, hone]
      dsimp only
      rw [ih h]
      rfl

private theorem map_resolveFixed_of_concrete (b : Bindings)
    (h : ∀ p ∈ params, ∀ name bound, p ≠ .generic name bound) :
    (params.map fun p => (resolveFixed b p).1) = params := by
  refine (List.map_congr_left fun p hp => ?_).trans (List.map_id' params)
  cases p with
  | generic name bound => exact absurd rfl (h _ hp name bound)
  | _ => rfl

private theorem positions_of_concrete (hs : s.Concrete) (types : List ValueType)
    (hcount : s.admits count = true) :
    (s.positions types count).2.1 = s.unassignable types ∧
      ∀ i < count, (s.positions types count).1[i]? = s.expected? types i := by
  obtain ⟨hparams, hvariadic⟩ := List.forall_mem_append.mp hs
  simp only [positions_eq, bindFixed_of_concrete _ hparams, map_resolveFixed_of_concrete _ hparams]
  unfold unassignable expected?
  rw [admits_iff, isVariadic] at hcount
  cases hv : s.variadic with
  | none =>
    rw [hv] at hcount
    refine ⟨rfl, fun i hi => (if_pos ?_).symm⟩
    exact hcount ▸ hi
  | some element =>
    rw [hv] at hvariadic
    have helement := hvariadic element (by simp)
    simp only [resolveVariadic_of_ne_generic helement]
    refine ⟨by simp, fun i hi => ?_⟩
    split_ifs with hfixed
    · rw [List.getElem?_append_left hfixed]
    · rw [List.getElem?_append_right (Nat.not_lt.mp hfixed),
        List.getElem?_replicate_of_lt (by omega)]
      rfl

private theorem accepts_expected (hs : s.Concrete) (hp : s.declared? i = some p)
    (hq : s.expected? types i = some q) (ht : types[i]? = some t) :
    q.accepts t = p.accepts t := by
  -- those that a variadic element accepts are accepted by what they have in common
  unfold declared? at hp
  unfold expected? at hq
  split_ifs at hp hq with hi
  · cases hp.symm.trans hq
    rfl
  · rw [hp, Option.map_some, Option.some.injEq] at hq
    subst hq
    cases hcommon : common? (s.acceptedTail types p) with
    | none => rfl
    | some q =>
      rw [Option.getD_some, Bool.eq_iff_iff]
      have hgeneric := hs p (List.mem_append_right _ (by simp [hp]))
      have hgathers : Gathers p (s.acceptedTail types p) :=
        ⟨fun u hu => (List.mem_filter.mp hu).2, fun n bound heq => absurd heq (hgeneric n bound)⟩
      constructor
      · exact hgathers.accepts_of_common? hgeneric hcommon
      · intro haccepts
        refine ValueType.accepts_of_common? hcommon (List.mem_filter.mpr ⟨?_, haccepts⟩)
        exact mem_tail_iff.mpr ⟨i, Nat.not_lt.mp hi, ht⟩

private theorem exists_expected (types : List ValueType) (hp : s.declared? i = some p) :
    ∃ q, s.expected? types i = some q := by
  unfold declared? at hp
  unfold expected?
  split_ifs at hp ⊢
  · exact ⟨p, hp⟩
  · rw [hp]
    exact ⟨_, rfl⟩

private theorem rejects_of_mem_unassignable (hd : d ∈ s.unassignable types) :
    d.position? = none ∧ ∃ i, s.Rejects types i := by
  obtain ⟨element, helement, hd⟩ := List.mem_flatMap.mp hd
  obtain ⟨t, ht, rfl⟩ := List.mem_map.mp hd
  obtain ⟨ht, haccepts⟩ := List.mem_filter.mp ht
  obtain ⟨i, hi, ht⟩ := mem_tail_iff.mp ht
  refine ⟨rfl, i, element, t, ?_, ht, by simpa using haccepts⟩
  rw [declared?_of_le hi]
  exact Option.mem_toList.mp helement

section Engine

variable [PatternEngine]

def mismatches (s : Signature) (types : List ValueType) (literals : List String) :
    List ArgumentDefect :=
  let params := (s.positions types (types.length + literals.length)).1
  checkEntries 0 params types ++ (checkLiterals types.length (params.drop types.length) literals).2

private theorem mem_mismatches_iff (hs : s.Concrete)
    (hcount : s.admits (types.length + literals.length) = true) :
    d ∈ s.mismatches types literals ↔
      (∃ i p q t, s.declared? i = some p ∧ types[i]? = some t ∧ p.accepts t = false ∧
        s.expected? types i = some q ∧ d = .mismatch i q t) ∨
      ∃ i q l e, types.length ≤ i ∧ s.expected? types i = some q ∧
        literals[i - types.length]? = some l ∧ readLiteral q l = .error e ∧ d = .literal i e := by
  have hexpected := (positions_of_concrete hs types hcount).2
  unfold mismatches
  dsimp only
  rw [List.mem_append, mem_checkEntries_iff, mem_checkLiterals_iff]
  refine or_congr ⟨?_, ?_⟩ ⟨?_, ?_⟩
  · rintro ⟨i, q, t, hq, ht, haccepts, rfl⟩
    obtain ⟨hi, -⟩ := List.getElem?_eq_some_iff.mp ht
    rw [hexpected i (by omega)] at hq
    obtain ⟨p, hp⟩ := exists_declared hcount (show i < _ by omega)
    rw [accepts_expected hs hp hq ht] at haccepts
    exact ⟨i, p, q, t, hp, ht, haccepts, hq, by rw [Nat.zero_add]⟩
  · rintro ⟨i, p, q, t, hp, ht, haccepts, hq, rfl⟩
    obtain ⟨hi, -⟩ := List.getElem?_eq_some_iff.mp ht
    rw [← accepts_expected hs hp hq ht] at haccepts
    exact ⟨i, q, t, (hexpected i (by omega)).trans hq, ht, haccepts, by rw [Nat.zero_add]⟩
  · rintro ⟨i, q, l, e, hq, hl, hread, rfl⟩
    obtain ⟨hi, -⟩ := List.getElem?_eq_some_iff.mp hl
    rw [List.getElem?_drop, hexpected _ (by omega)] at hq
    exact ⟨types.length + i, q, l, e, Nat.le_add_right _ _, hq, by rwa [Nat.add_sub_cancel_left],
      hread, rfl⟩
  · rintro ⟨i, q, l, e, hle, hq, hl, hread, rfl⟩
    obtain ⟨hi, -⟩ := List.getElem?_eq_some_iff.mp hl
    refine ⟨i - types.length, q, l, e, ?_, hl, hread, by rw [Nat.add_sub_cancel' hle]⟩
    rw [List.getElem?_drop, Nat.add_sub_cancel' hle, hexpected i (by omega), hq]

private theorem result_of_concrete (hs : s.Concrete)
    (hcount : s.admits (types.length + literals.length) = true) :
    ∃ values, (s.checkArguments types literals).result =
      if s.unassignable types ++ s.mismatches types literals = [] then .ok values
      else .error (s.unassignable types ++ s.mismatches types literals) := by
  refine ⟨(checkLiterals types.length
    ((s.positions types (types.length + literals.length)).1.drop types.length) literals).1, ?_⟩
  unfold checkArguments mismatches
  dsimp only
  rw [if_neg (by simpa using hcount), (positions_of_concrete hs types hcount).1, List.append_assoc]
  simp only [List.isEmpty_iff]

private theorem pairwise_mismatches (s : Signature) (types : List ValueType)
    (literals : List String) : (s.mismatches types literals).Pairwise ArgumentDefect.Before := by
  refine List.pairwise_append.mpr ⟨pairwise_checkEntries .., pairwise_checkLiterals .., ?_⟩
  intro d hd d' hd' i j hi hj
  obtain ⟨m, p, t, -, ht, -, rfl⟩ := mem_checkEntries_iff.mp hd
  obtain ⟨n, q, l, e, -, -, -, rfl⟩ := mem_checkLiterals_iff.mp hd'
  obtain ⟨hm, -⟩ := List.getElem?_eq_some_iff.mp ht
  cases hi
  cases hj
  omega

private theorem pairwise_reported (s : Signature) (types : List ValueType)
    (literals : List String) :
    (s.unassignable types ++ s.mismatches types literals).Pairwise ArgumentDefect.Before := by
  have hnone {d d' : ArgumentDefect} (hd : d ∈ s.unassignable types) : d.Before d' := by
    intro i j hi
    rw [(rejects_of_mem_unassignable hd).1] at hi
    cases hi
  exact List.pairwise_append.mpr ⟨List.pairwise_of_forall_mem_list fun d hd d' _ => hnone hd,
    pairwise_mismatches .., fun d hd d' _ => hnone hd⟩

/-- What the lines of a refused call say of its positions. An entry that its declared parameter does
not accept has one line, with the type that was expected, and so has a literal that cannot be read,
with the reason; no other position has a line, and the lines are in the order of positions. -/
structure Reports (s : Signature) (types : List ValueType) (literals : List String)
    (lines : List String) : Prop where
  entry : ∀ i p t, s.declared? i = some p → types[i]? = some t → p.accepts t = false →
    ∃ q, s.expected? types i = some q ∧ lines.filter (beginsAt i) =
      [place i ++ ("Expected `" ++ q.name ++ "` found `" ++ t.name ++ "`")]
  literal : ∀ i q l e, types.length ≤ i → s.expected? types i = some q →
    literals[i - types.length]? = some l → readLiteral q l = .error e →
    lines.filter (beginsAt i) = [place i ++ e.message]
  others : ∀ i, ¬ s.Rejects types i → ¬ s.Misreads types literals i →
    lines.filter (beginsAt i) = []
  inOrder : InOrder lines

private theorem reported_eq_nil_iff (hs : s.Concrete)
    (hcount : s.admits (types.length + literals.length) = true) :
    s.unassignable types ++ s.mismatches types literals = [] ↔
      ∀ i, ¬ s.Rejects types i ∧ ¬ s.Misreads types literals i := by
  have hmem {d : ArgumentDefect} := mem_mismatches_iff (d := d) hs hcount
  rw [List.append_eq_nil_iff, List.eq_nil_iff_forall_not_mem, List.eq_nil_iff_forall_not_mem]
  constructor
  · rintro ⟨-, hnone⟩ i
    constructor
    · rintro ⟨p, t, hp, ht, haccepts⟩
      obtain ⟨q, hq⟩ := exists_expected types hp
      exact hnone _ (hmem.mpr (.inl ⟨i, p, q, t, hp, ht, haccepts, hq, rfl⟩))
    · rintro ⟨q, l, e, hle, hq, hl, hread⟩
      exact hnone _ (hmem.mpr (.inr ⟨i, q, l, e, hle, hq, hl, hread, rfl⟩))
  · intro h
    constructor
    · intro d hd
      obtain ⟨i, hrejects⟩ := (rejects_of_mem_unassignable hd).2
      exact (h i).1 hrejects
    · intro d hd
      rcases hmem.mp hd with ⟨i, p, q, t, hp, ht, haccepts, -⟩ | ⟨i, q, l, e, hle, hq, hl, hread, -⟩
      · exact (h i).1 ⟨p, t, hp, ht, haccepts⟩
      · exact (h i).2 ⟨q, l, e, hle, hq, hl, hread⟩

private theorem reports_of_concrete (hs : s.Concrete)
    (hcount : s.admits (types.length + literals.length) = true) :
    s.Reports types literals
      ((s.unassignable types ++ s.mismatches types literals).map ArgumentDefect.text) := by
  have hmem {d : ArgumentDefect} := mem_mismatches_iff (d := d) hs hcount
  have horder := inOrder_text (pairwise_reported s types literals)
  have hline {d : ArgumentDefect} {i : Nat} (hd : d ∈ s.mismatches types literals)
      (hi : d.position? = some i) :
      ((s.unassignable types ++ s.mismatches types literals).map ArgumentDefect.text).filter
        (beginsAt i) = [d.text] :=
    horder.filter_eq (List.mem_map_of_mem (List.mem_append_right _ hd)) (beginsAt_text_iff.mpr hi)
  refine ⟨?_, ?_, ?_, horder⟩
  · intro i p t hp ht haccepts
    obtain ⟨q, hq⟩ := exists_expected types hp
    refine ⟨q, hq, ?_⟩
    rw [← text_mismatch]
    exact hline (hmem.mpr (.inl ⟨i, p, q, t, hp, ht, haccepts, hq, rfl⟩)) rfl
  · intro i q l e hle hq hl hread
    rw [← text_literal]
    exact hline (hmem.mpr (.inr ⟨i, q, l, e, hle, hq, hl, hread, rfl⟩)) rfl
  · intro i hrejects hmisreads
    refine List.filter_eq_nil_iff.mpr fun line hline hi => ?_
    obtain ⟨d, hd, rfl⟩ := List.mem_map.mp hline
    rw [beginsAt_text_iff] at hi
    rcases List.mem_append.mp hd with hd | hd
    · rw [(rejects_of_mem_unassignable hd).1] at hi
      cases hi
    · rcases hmem.mp hd with ⟨j, p, q, t, hp, ht, haccepts, -, rfl⟩ |
        ⟨j, q, l, e, hle, hq, hl, hread, rfl⟩
      · cases hi
        exact hrejects ⟨p, t, hp, ht, haccepts⟩
      · cases hi
        exact hmisreads ⟨q, l, e, hle, hq, hl, hread⟩

/-- A call without type variables whose arguments can be counted off succeeds exactly if no entry is
rejected and no literal misread, and otherwise reports each of these. -/
theorem mismatches_reported (hs : s.Concrete)
    (hcount : s.admits (types.length + literals.length) = true) :
    ((∃ values, (s.checkArguments types literals).result = .ok values) ↔
      ∀ i, ¬ s.Rejects types i ∧ ¬ s.Misreads types literals i) ∧
    ∀ defects, (s.checkArguments types literals).result = .error defects →
      s.Reports types literals (defects.map ArgumentDefect.text) := by
  obtain ⟨values, hresult⟩ := result_of_concrete hs hcount
  rw [hresult, ← reported_eq_nil_iff hs hcount]
  split_ifs with hnil
  · refine ⟨iff_of_true ⟨values, rfl⟩ hnil, fun defects herror => ?_⟩
    cases herror
  · refine ⟨iff_of_false ?_ hnil, fun defects herror => ?_⟩
    · rintro ⟨_, hok⟩
      cases hok
    · cases herror
      exact reports_of_concrete hs hcount

end Engine

open scoped Pattern.Engine

/-- Among the arguments of a variadic handler of numbers, a `bool` is held against the type of the
others, and does not hide that a literal is no number. -/
theorem mismatches_among_numbers :
    let s : Signature := { params := [.exact .bool], variadic := some .number }
    let types : List ValueType := [.text, .number .int32, .bool]
    ∃ defects, (s.checkArguments types ["on"]).result = .error defects ∧
      (s.Rejects types 0 ∧ s.Rejects types 2 ∧ s.Misreads types ["on"] 3) ∧
      s.Reports types ["on"] (defects.map ArgumentDefect.text) := by
  intro s types
  have hs : s.Concrete := by simp [s, Concrete]
  refine ⟨_, rfl, ⟨⟨_, _, rfl, rfl, rfl⟩, ⟨_, _, rfl, rfl, rfl⟩, ?_⟩,
    (mismatches_reported hs rfl).2 _ rfl⟩
  exact ⟨.exact (.number .int32), "on", _, by decide, rfl, rfl, rfl⟩

end Signature

end FieldGate
