import FieldGate.Proofs.Checking

/-! Verdicts of requirements. If every member of a group has a verdict, so has the group, and it is
what the quantifier says about the members. -/
namespace FieldGate

namespace Quantifier

variable {α : Type} {P : α → Prop} {x : α} {xs : List α} {q : Quantifier} {found b : Bool}

def Once (P : α → Prop) (xs : List α) : Prop :=
  ∃ before x after, xs = before ++ x :: after ∧ P x ∧ (∀ y ∈ before, ¬ P y) ∧ ∀ y ∈ after, ¬ P y

def Over (P : α → Prop) (xs : List α) : Quantifier → Prop
  | all => ∀ x ∈ xs, P x
  | any => ∃ x ∈ xs, P x
  | none => ∀ x ∈ xs, ¬ P x
  | one => Once P xs

theorem not_once_nil : ¬ Once P [] := by
  rintro ⟨before, x, after, h, -⟩
  simp at h

theorem once_cons : Once P (x :: xs) ↔ P x ∧ (∀ y ∈ xs, ¬ P y) ∨ ¬ P x ∧ Once P xs := by
  constructor
  · rintro ⟨before, y, after, heq, hy, hbefore, hafter⟩
    cases before with
    | nil =>
      obtain ⟨rfl, rfl⟩ := List.cons.inj heq
      exact .inl ⟨hy, hafter⟩
    | cons z before =>
      obtain ⟨rfl, rfl⟩ := List.cons.inj heq
      obtain ⟨hx, hbefore⟩ := List.forall_mem_cons.mp hbefore
      exact .inr ⟨hx, before, y, after, rfl, hy, hbefore, hafter⟩
  · rintro (⟨hx, hxs⟩ | ⟨hx, before, y, after, rfl, hy, hbefore, hafter⟩)
    · exact ⟨[], x, xs, rfl, hx, by simp, hxs⟩
    · exact ⟨x :: before, y, after, rfl, hy, List.forall_mem_cons.mpr ⟨hx, hbefore⟩, hafter⟩

/-- What a quantifier says about the members that are left, given whether one before them held. -/
def OverRest (found : Bool) (P : α → Prop) (xs : List α) : Quantifier → Prop
  | one => if found then ∀ x ∈ xs, ¬ P x else Once P xs
  | q => q.Over P xs

theorem overRest_false : q.OverRest false P xs ↔ q.Over P xs := by
  cases q <;> rfl

theorem unsettled_iff : q.unsettled found = true ↔ q.OverRest found P [] := by
  cases q <;> cases found <;> simp [unsettled, OverRest, Over, not_once_nil]

/-- A member that settles the verdict settles what the quantifier says. -/
theorem settled_iff {verdict : Bool} (hb : b = true ↔ P x)
    (h : q.settled? found b = some verdict) :
    verdict = true ↔ q.OverRest found P (x :: xs) := by
  cases q <;> cases found <;> cases b <;>
    simp_all [settled?, OverRest, Over]

/-- A member that settles nothing leaves the verdict to those after it. -/
theorem overRest_cons (hb : b = true ↔ P x) (h : q.settled? found b = Option.none) :
    q.OverRest found P (x :: xs) ↔ q.OverRest (found || b) P xs := by
  cases q <;> cases found <;> cases b <;>
    simp_all [settled?, OverRest, Over, once_cons]

end Quantifier

namespace Requirement

variable {α β ε : Type} {answer : α → Except ε Bool} {q : Quantifier} {P : β → Prop}
  {r : Requirement α} {rs : List (Requirement α)} {x : β} {xs : List β}

/-- The check of a requirement ends in a verdict, which is true exactly if `P` holds. -/
def Decides (answer : α → Except ε Bool) (r : Requirement α) (P : Prop) : Prop :=
  ∃ b, (check answer r).outcome = .ok b ∧ (b = true ↔ P)

theorem Decides.outcome_iff {P : Prop} (h : Decides answer r P) :
    (check answer r).outcome = .ok true ↔ P := by
  obtain ⟨b, hb, hiff⟩ := h
  rw [hb, ← hiff, Except.ok.injEq]

private theorem decides_checkEach (h : List.Forall₂ (fun x r => Decides answer r (P x)) xs rs)
    (found : Bool) :
    ∃ b, (checkEach answer q found rs).outcome = .ok b ∧ (b = true ↔ q.OverRest found P xs) := by
  -- the members are checked up to the first that settles the verdict
  induction h generalizing found with
  | nil => exact ⟨_, rfl, Quantifier.unsettled_iff⟩
  | @cons x r xs rs hr _ ih =>
    obtain ⟨b, hb, hiff⟩ := hr
    rw [checkEach_cons, Checked.andThen_of_ok hb]
    -- the members after this one are checked only if it leaves the verdict open
    cases hs : q.settled? found b with
    | some verdict =>
      rw [proceed_of_settled hs]
      exact ⟨verdict, rfl, Quantifier.settled_iff hiff hs⟩
    | none =>
      obtain ⟨v, hv, hviff⟩ := ih (found || b)
      rw [proceed_of_open hs]
      exact ⟨v, hv, hviff.trans (Quantifier.overRest_cons hiff hs).symm⟩

theorem decides_group (h : List.Forall₂ (fun x r => Decides answer r (P x)) xs rs) :
    Decides answer (group q rs) (q.Over P xs) := by
  obtain ⟨b, hb, hiff⟩ := decides_checkEach h false
  exact ⟨b, hb, hiff.trans Quantifier.overRest_false⟩

/-- Combined requirements decide what the quantifier says, also where one stands for itself. -/
theorem decides_combine (h : List.Forall₂ (fun x r => Decides answer r (P x)) xs rs) :
    Decides answer (combine q rs) (q.Over P xs) := by
  unfold Decides
  rw [check_combine]
  exact decides_group h

/-- Requirements joined together hold if each of them does. -/
theorem decides_all (h : ∀ r ∈ rs, ∃ P, Decides answer r P) :
    Decides answer (all rs) (∀ r ∈ rs, (check answer r).outcome = .ok true) := by
  refine decides_combine (q := .all) (List.forall₂_same.mpr fun r hr => ?_)
  obtain ⟨P, b, hb, -⟩ := h r hr
  exact ⟨b, hb, by rw [hb, Except.ok.injEq]⟩

end Requirement

end FieldGate
