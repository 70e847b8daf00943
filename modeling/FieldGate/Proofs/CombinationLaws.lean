import FieldGate.Proofs.Checking
import Mathlib.Tactic.SplitIfs

/-! Laws of the ways to combine requirements. De Morgan's laws, double negation and regrouping hold
of checks that fail as they do of verdicts, and both sides ask the same questions in the same
order. -/
namespace FieldGate

namespace Checked

variable {ε α : Type}

def negated (c : Checked ε α) : Checked ε α := c.andThen fun b => settled !b

theorem negated_andThen (c : Checked ε α) (next : Bool → Checked ε α) :
    (c.andThen next).negated = c.andThen fun b => (next b).negated :=
  andThen_assoc c next _

theorem andThen_negated (c : Checked ε α) (next : Bool → Checked ε α) :
    c.negated.andThen next = c.andThen fun b => next !b :=
  andThen_assoc c _ next

theorem negated_negated (c : Checked ε α) : c.negated.negated = c := by
  have hback : (fun b => settled (!!b)) = (settled : Bool → Checked ε α) := by
    funext b
    rw [Bool.not_not]
  calc c.negated.negated
    _ = c.andThen fun b => settled (!!b) := andThen_negated c _
    _ = c.andThen settled := by rw [hback]
    _ = c := andThen_settled c

end Checked

namespace Requirement

variable {ε α : Type} {answer : α → Except ε Bool} {q : Quantifier} {found : Bool}
  {r : Requirement α} {rs xs ys : List (Requirement α)}

theorem check_not (answer : α → Except ε Bool) (r : Requirement α) :
    check answer (not r) = (check answer r).negated := by
  rw [not, check_group, checkEach_cons, Checked.negated]
  congr 1
  funext b
  cases b <;> rfl

theorem check_not_not (answer : α → Except ε Bool) (r : Requirement α) :
    check answer (not (not r)) = check answer r := by
  rw [check_not, check_not, Checked.negated_negated]

/-- That none holds is settled by the same member as that one does, the other way. -/
theorem checkEach_none_eq_negated :
    checkEach answer .none found rs = (checkEach answer .any found rs).negated := by
  induction rs generalizing found with
  | nil => rfl
  | cons r rs ih =>
    have hproceed (b : Bool) :
        proceed answer .none found rs b = (proceed answer .any found rs b).negated := by
      cases b with
      | true => rfl
      | false => exact ih
    rw [checkEach_cons, checkEach_cons, Checked.negated_andThen]
    exact congrArg _ (funext hproceed)

/-- That all hold is settled as it is that none of their negations does. Only groups of exactly one
look at what was found, so the two runs need not agree on it. -/
theorem checkEach_all_eq_none (found found' : Bool) :
    checkEach answer .all found rs = checkEach answer .none found' (rs.map not) := by
  induction rs generalizing found found' with
  | nil => rfl
  | cons r rs ih =>
    have hproceed (b : Bool) :
        proceed answer .all found rs b = proceed answer .none found' (rs.map not) !b := by
      cases b with
      | true => exact ih _ _
      | false => rfl
    rw [List.map_cons, checkEach_cons, checkEach_cons, check_not, Checked.andThen_negated]
    exact congrArg _ (funext hproceed)

/-- What a group does after a beginning of its members: it ends unless these left it open. -/
def resume (answer : α → Except ε Bool) (q : Quantifier) (rs : List (Requirement α)) (b : Bool) :
    Checked ε α :=
  if b = q.unsettled false then checkEach answer q false rs else .settled b

section Regroup

variable (hq : q = .all ∨ q = .any)
include hq

private theorem proceed_eq (found b : Bool) :
    proceed answer q found rs b =
      if b = q.unsettled false then checkEach answer q (found || b) rs else .settled b := by
  have hsettled : q.settled? found b = if b = q.unsettled false then Option.none else some b := by
    rcases hq with rfl | rfl <;> cases b <;> rfl
  split_ifs at hsettled ⊢
  · exact proceed_of_open hsettled
  · exact proceed_of_settled hsettled

private theorem checkEach_found (found : Bool) :
    checkEach answer q found rs = checkEach answer q false rs := by
  induction rs generalizing found with
  | nil => rcases hq with rfl | rfl <;> rfl
  | cons r rs ih =>
    have hproceed (b : Bool) : proceed answer q found rs b = proceed answer q false rs b := by
      rw [proceed_eq hq, proceed_eq hq, ih, ih (false || b)]
    rw [checkEach_cons, checkEach_cons]
    exact congrArg _ (funext hproceed)

private theorem proceed_eq_resume (b : Bool) :
    proceed answer q false rs b = resume answer q rs b := by
  rw [proceed_eq hq, checkEach_found hq, resume]

/-- The members of a group can be checked in two parts. -/
theorem checkEach_append (xs ys : List (Requirement α)) :
    checkEach answer q false (xs ++ ys) =
      (checkEach answer q false xs).andThen (resume answer q ys) := by
  induction xs with
  | nil => rw [List.nil_append, checkEach_nil, Checked.settled_andThen, resume, if_pos rfl]
  | cons x xs ih =>
    have hproceed (b : Bool) :
        proceed answer q false (xs ++ ys) b =
          (proceed answer q false xs b).andThen (resume answer q ys) := by
      rw [proceed_eq_resume hq, proceed_eq_resume hq, resume, resume]
      split_ifs with hb
      · exact ih
      · rw [Checked.settled_andThen, resume, if_neg hb]
    rw [List.cons_append, checkEach_cons, checkEach_cons, Checked.andThen_assoc]
    exact congrArg _ (funext hproceed)

/-- A group is checked as the group of the two that it is split into. -/
theorem check_combine_append (xs ys : List (Requirement α)) :
    check answer (combine q (xs ++ ys)) =
      check answer (combine q [combine q xs, combine q ys]) := by
  have hone : q.isIdentityForOne = true := by rcases hq with rfl | rfl <;> rfl
  have hproceed (b : Bool) :
      proceed answer q false [combine q ys] b = resume answer q ys b := by
    rw [proceed_eq_resume hq, resume, resume, checkEach_singleton hone, check_combine, check_group]
  calc check answer (combine q (xs ++ ys))
    _ = (checkEach answer q false xs).andThen (resume answer q ys) := by
      rw [check_combine, check_group, checkEach_append hq]
    _ = (check answer (combine q xs)).andThen (proceed answer q false [combine q ys]) := by
      rw [check_combine, check_group, funext hproceed]
    _ = check answer (combine q [combine q xs, combine q ys]) := by
      rw [check_combine answer q [_, _], check_group, checkEach_cons]

end Regroup

/-- Whatever the questions answer, an error included, the two sides of each law have the same
outcome and ask the same questions in the same order. -/
theorem combination_laws (answer : α → Except ε Bool) (r : Requirement α)
    (rs xs ys : List (Requirement α)) :
    check answer (none rs) = check answer (not (any rs)) ∧
    check answer (all rs) = check answer (none (rs.map not)) ∧
    check answer (not (not r)) = check answer r ∧
    check answer (all (xs ++ ys)) = check answer (all [all xs, all ys]) ∧
    check answer (any (xs ++ ys)) = check answer (any [any xs, any ys]) := by
  refine ⟨?_, ?_, check_not_not answer r, check_combine_append (.inl rfl) xs ys,
    check_combine_append (.inr rfl) xs ys⟩
  · rw [none, any, check_not, check_combine, check_combine]
    exact checkEach_none_eq_negated
  · rw [all, none, check_combine, check_combine]
    exact checkEach_all_eq_none false false

/-- That exactly one holds cannot be regrouped: of three lamps that are on, one stands alone in its
group. -/
example :
    let on (lamp : Nat) : Requirement Nat := leaf lamp
    let answer (_ : Nat) : Except String Bool := .ok true
    (check answer (one ([on 0, on 1] ++ [on 2]))).outcome = .ok false ∧
      (check answer (one [one [on 0, on 1], one [on 2]])).outcome = .ok true :=
  ⟨rfl, rfl⟩

end Requirement

end FieldGate
