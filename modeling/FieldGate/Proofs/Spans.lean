import FieldGate.Pattern.Tree
import FieldGate.Proofs.CharacterSets
import Mathlib.Logic.Relation
import Mathlib.Order.Defs.PartialOrder

/-! What a pattern matches, as a relation between places of a text: two places are related if it can
match what lies between them, with what stands before and after it. -/
namespace FieldGate.Pattern

/-- A place in a text, by the characters before it, the nearest first, and those after it. -/
structure Place where
  before : List Char
  after : List Char

namespace Place

variable {p q r : Place} {cs ds : List Char}

/-- From the first place to the second one lie the given characters. -/
def Past (cs : List Char) (p q : Place) : Prop :=
  p.after = cs ++ q.after ∧ q.before = cs.reverse ++ p.before

theorem past_nil : Past [] = Eq := by
  funext p q
  refine propext ⟨?_, ?_⟩
  · rintro ⟨hafter, hbefore⟩
    cases p
    cases q
    cases hafter
    cases hbefore
    rfl
  · rintro rfl
    exact ⟨rfl, rfl⟩

theorem past_append : Past (cs ++ ds) = Relation.Comp (Past cs) (Past ds) := by
  funext p q
  refine propext ⟨?_, ?_⟩
  · rintro ⟨hafter, hbefore⟩
    exact ⟨⟨cs.reverse ++ p.before, ds ++ q.after⟩, ⟨by simp [hafter], rfl⟩, rfl, by simp [hbefore]⟩
  · rintro ⟨m, ⟨hafter, hbefore⟩, hafter', hbefore'⟩
    exact ⟨by simp [hafter, hafter'], by simp [hbefore, hbefore']⟩

/-- Places of one text, in the order of reading. -/
instance : PartialOrder Place where
  le p q := ∃ cs, Past cs p q
  le_refl p := ⟨[], by rw [past_nil]⟩
  le_trans p q r := by
    rintro ⟨cs, h⟩ ⟨ds, h'⟩
    exact ⟨cs ++ ds, by rw [past_append]; exact ⟨q, h, h'⟩⟩
  le_antisymm p q := by
    rintro ⟨cs, h⟩ ⟨ds, h'⟩
    have hlength : cs.length + ds.length = 0 := by
      have := congrArg List.length h.1
      have := congrArg List.length h'.1
      simp only [List.length_append] at *
      omega
    obtain rfl : cs = [] := List.length_eq_zero_iff.mp (by omega)
    rwa [past_nil] at h

def next (p : Place) (c : Char) (rest : List Char) : Place := ⟨c :: p.before, rest⟩

theorem past_singleton {c : Char} :
    Past [c] p q ↔ ∃ rest, p.after = c :: rest ∧ q = p.next c rest := by
  constructor
  · rintro ⟨hafter, hbefore⟩
    exact ⟨q.after, hafter, by cases q; cases hbefore; rfl⟩
  · rintro ⟨rest, hafter, rfl⟩
    exact ⟨hafter, rfl⟩

/-- A later place is that after the next character or one behind it. -/
theorem next_le {c : Char} {rest : List Char} (hp : p.after = c :: rest) (h : p ≤ q) (hne : q ≠ p) :
    p.next c rest ≤ q := by
  obtain ⟨cs, hcs⟩ := h
  cases cs with
  | nil =>
    rw [past_nil] at hcs
    exact absurd hcs.symm hne
  | cons d cs =>
    obtain ⟨hafter, hbefore⟩ := hcs
    rw [hp] at hafter
    obtain ⟨rfl, rfl⟩ := List.cons.inj hafter
    exact ⟨cs, rfl, by simpa [next] using hbefore⟩

theorem le_next {c : Char} {rest : List Char} (hp : p.after = c :: rest) : p ≤ p.next c rest :=
  ⟨[c], past_singleton.mpr ⟨rest, hp, rfl⟩⟩

theorem next_ne {c : Char} {rest : List Char} : p.next c rest ≠ p := fun h =>
  List.cons_ne_self c p.before (congrArg before h)

/-- No place lies behind the end of the text. -/
theorem eq_of_after_eq_nil (hp : p.after = []) (h : p ≤ q) : q = p := by
  obtain ⟨cs, hcs⟩ := h
  obtain ⟨rfl, -⟩ := List.append_eq_nil_iff.mp (hcs.1.symm.trans hp)
  rw [past_nil] at hcs
  exact hcs.symm

end Place

section Relations

variable {R S T : Place → Place → Prop} {m n : Nat} {p q : Place}

def Times (R : Place → Place → Prop) : Nat → Place → Place → Prop
  | 0 => Eq
  | n + 1 => Relation.Comp R (Times R n)

theorem times_one : Times R 1 = R := Relation.comp_eq

theorem times_add (R : Place → Place → Prop) (m n : Nat) :
    Times R (m + n) = Relation.Comp (Times R m) (Times R n) := by
  induction m with
  | zero => rw [Nat.zero_add, Times, Relation.eq_comp]
  | succ m ih => rw [Nat.add_right_comm, Times, ih, Times, Relation.comp_assoc]

theorem times_self (h : R p p) (n : Nat) : Times R n p p := by
  induction n with
  | zero => rfl
  | succ n ih => exact ⟨p, h, ih⟩

theorem eq_of_times (hR : ∀ p q, R p q → p = q) (h : Times R n p q) : p = q := by
  induction n generalizing p with
  | zero => exact h
  | succ n ih =>
    obtain ⟨mid, hmid, h⟩ := h
    exact (hR p mid hmid).trans (ih h)

/-- Being repeated any number of times is going on and on. -/
theorem exists_times_iff : (∃ n, Times R n p q) ↔ Relation.ReflTransGen R p q := by
  constructor
  · rintro ⟨n, h⟩
    induction n generalizing p with
    | zero =>
      cases h
      exact .refl
    | succ n ih =>
      obtain ⟨m, hm, h⟩ := h
      exact .head hm (ih h)
  · intro h
    induction h using Relation.ReflTransGen.head_induction_on with
    | refl => exact ⟨0, rfl⟩
    | head hm _ ih =>
      obtain ⟨n, hn⟩ := ih
      exact ⟨n + 1, _, hm, hn⟩

def Onward (R : Place → Place → Prop) : Prop := ∀ p q, R p q → p ≤ q

theorem onward_eq : Onward Eq := fun _ _ h => h ▸ le_refl _

theorem Onward.comp (hR : Onward R) (hS : Onward S) : Onward (Relation.Comp R S) := by
  rintro p q ⟨m, hm, hq⟩
  exact le_trans (hR p m hm) (hS m q hq)

theorem Onward.times (hR : Onward R) (n : Nat) : Onward (Times R n) := by
  induction n with
  | zero => exact onward_eq
  | succ n ih => exact hR.comp ih

theorem Onward.reflTransGen (hR : Onward R) : Onward (Relation.ReflTransGen R) := by
  intro p q h
  obtain ⟨n, hn⟩ := exists_times_iff.mpr h
  exact hR.times n p q hn

/-- Going on from a later place ends at a later place. -/
theorem Onward.ne_of_later (hR : Onward R) (hS : Onward S) {mid : Place} (hmid : R p mid)
    (hq : S mid q) (hne : mid ≠ p) : q ≠ p := by
  rintro rfl
  exact hne (le_antisymm (hS mid q hq) (hR q mid hmid))

/-- Of two relations on the way to a later place the first one or the second one goes on. -/
theorem comp_later_iff (hR : Onward R) (hS : Onward S) : (q ≠ p ∧ Relation.Comp R S p q) ↔
    (∃ mid, (mid ≠ p ∧ R p mid) ∧ S mid q) ∨ (q ≠ p ∧ R p p ∧ S p q) := by
  constructor
  · rintro ⟨hne, mid, hmid, hq⟩
    by_cases hstays : mid = p
    · subst hstays
      exact .inr ⟨hne, hmid, hq⟩
    · exact .inl ⟨mid, ⟨hstays, hmid⟩, hq⟩
  · rintro (⟨mid, ⟨hlater, hmid⟩, hq⟩ | ⟨hne, hstays, hq⟩)
    · exact ⟨hR.ne_of_later hS hmid hq hlater, mid, hmid, hq⟩
    · exact ⟨hne, p, hstays, hq⟩

/-- Going on and on to a later place may begin with turns that read nothing, which can be left
out. -/
theorem reflTransGen_later_iff (hR : Onward R) : (q ≠ p ∧ Relation.ReflTransGen R p q) ↔
    ∃ mid, (mid ≠ p ∧ R p mid) ∧ Relation.ReflTransGen R mid q := by
  constructor
  · rintro ⟨hne, h⟩
    induction h using Relation.ReflTransGen.head_induction_on with
    | refl => exact absurd rfl hne
    | head hmid hrest ih =>
      rename_i p mid
      by_cases hstays : mid = p
      · subst hstays
        exact ih hne
      · exact ⟨mid, ⟨hstays, hmid⟩, hrest⟩
  · rintro ⟨mid, ⟨hlater, hmid⟩, hq⟩
    exact ⟨hR.ne_of_later hR.reflTransGen hmid hq hlater, .head hmid hq⟩

def TimesUpTo (R : Place → Place → Prop) (n : Nat) (p q : Place) : Prop := ∃ k ≤ n, Times R k p q

theorem timesUpTo_zero : TimesUpTo R 0 = Eq := by
  funext p q
  refine propext ⟨?_, fun h => ⟨0, Nat.le_refl 0, h⟩⟩
  rintro ⟨k, hk, h⟩
  obtain rfl := Nat.le_zero.mp hk
  exact h

/-- Few times, or some times and then a number of times more. -/
theorem timesUpTo_add (few : Nat) (hm : m ≤ few + 1) (hfew : few ≤ m + n) :
    TimesUpTo R (m + n) p q ↔
      TimesUpTo R few p q ∨ Relation.Comp (Times R m) (TimesUpTo R n) p q := by
  constructor
  · rintro ⟨k, hk, h⟩
    by_cases hsmall : k ≤ few
    · exact .inl ⟨k, hsmall, h⟩
    · obtain ⟨j, rfl⟩ := Nat.exists_eq_add_of_le (show m ≤ k by omega)
      rw [times_add] at h
      obtain ⟨mid, hmid, hq⟩ := h
      exact .inr ⟨mid, hmid, j, by omega, hq⟩
  · rintro (⟨k, hk, h⟩ | ⟨mid, hmid, k, hk, hq⟩)
    · exact ⟨k, Nat.le_trans hk hfew, h⟩
    · exact ⟨m + k, by omega, by rw [times_add]; exact ⟨mid, hmid, hq⟩⟩

end Relations

def reads (s : Char → Prop) (p q : Place) : Prop :=
  ∃ c rest, p.after = c :: rest ∧ s c ∧ q = p.next c rest

def Look.passes (l : Look) (p q : Place) : Prop :=
  p = q ∧ l.holds p.before.head? p.after.head? = true

theorem onward_reads (s : Char → Prop) : Onward (reads s) := by
  rintro p q ⟨c, rest, hp, -, rfl⟩
  exact Place.le_next hp

theorem Look.onward_passes (l : Look) : Onward l.passes := fun p q h => onward_eq p q h.1

/-- What lies between the start and the end of a text is all of it. -/
theorem comp_start_stop_iff {R : Place → Place → Prop} (hR : Onward R) (cs : List Char) :
    (∃ p q, ⟨[], cs⟩ ≤ p ∧
      Relation.Comp (Look.passes .start) (Relation.Comp R (Look.passes .stop)) p q) ↔
        R ⟨[], cs⟩ ⟨cs.reverse, []⟩ := by
  constructor
  · rintro ⟨⟨before, after⟩, ⟨before', after'⟩, ⟨skipped, hafter, hbefore⟩, _, ⟨rfl, hstart⟩, _,
      hspans, ⟨rfl, hstop⟩⟩
    obtain rfl : before = [] := by simpa [Look.holds] using hstart
    obtain rfl : after' = [] := by simpa [Look.holds] using hstop
    obtain rfl : skipped = [] := by simpa using hbefore
    obtain rfl : after = cs := by simpa using hafter.symm
    -- nothing was skipped, and what is read is the whole text
    obtain ⟨taken, htaken, hbehind⟩ := hR _ _ hspans
    obtain rfl : taken = after := by simpa using htaken.symm
    obtain rfl : before' = taken.reverse := by simpa using hbehind
    exact hspans
  · intro h
    exact ⟨_, _, le_refl _, _, ⟨rfl, rfl⟩, _, h, ⟨rfl, rfl⟩⟩

namespace Tree

mutual

/-- Whether the pattern can match what lies between two places. A repetition takes its least number
of turns, and more as far as its greatest number allows. -/
def spans : Tree → Place → Place → Prop
  | empty => Eq
  | set s => reads s.Has
  | look l => l.passes
  | repeated body least most _ => fun p q =>
    ∃ n, least ≤ n ∧ (∀ m ∈ most, n ≤ max least m) ∧ Times body.spans n p q
  | group _ body => body.spans
  | concat parts => spansInTurn parts
  | alternate branches => spansOneOf branches

def spansInTurn : List Tree → Place → Place → Prop
  | [] => Eq
  | t :: rest => Relation.Comp t.spans (spansInTurn rest)

def spansOneOf : List Tree → Place → Place → Prop
  | [] => fun _ _ => False
  | t :: rest => fun p q => t.spans p q ∨ spansOneOf rest p q

end

mutual

theorem onward_spans : (t : Tree) → Onward t.spans
  | empty => onward_eq
  | set s => onward_reads s.Has
  | look l => l.onward_passes
  | repeated body least most _ => by
    rintro p q ⟨n, -, -, h⟩
    exact (onward_spans body).times n p q h
  | group _ body => onward_spans body
  | concat parts => onward_spansInTurn parts
  | alternate branches => onward_spansOneOf branches

theorem onward_spansInTurn : (ts : List Tree) → Onward (spansInTurn ts)
  | [] => onward_eq
  | t :: rest => (onward_spans t).comp (onward_spansInTurn rest)

theorem onward_spansOneOf : (ts : List Tree) → Onward (spansOneOf ts)
  | [] => fun _ _ h => h.elim
  | t :: rest => fun p q h => h.elim (onward_spans t p q) (onward_spansOneOf rest p q)

end

/-- Whether the pattern matches anywhere in the text. -/
def MatchesIn (t : Tree) (cs : List Char) : Prop := ∃ p q, ⟨[], cs⟩ ≤ p ∧ t.spans p q

/-- Whether the pattern matches all of the text. -/
def MatchesAll (t : Tree) (cs : List Char) : Prop := t.spans ⟨[], cs⟩ ⟨cs.reverse, []⟩

end Tree

end FieldGate.Pattern
