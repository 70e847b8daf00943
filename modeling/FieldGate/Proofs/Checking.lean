import FieldGate.Requirement
import Mathlib.Data.List.Forall2

/-! The check of a requirement as a run that asks one question after the other. The members of a
group are its steps: after each of them the run ends with its error, ends with the verdict that it
settles, or goes on with the members that are left. -/
namespace FieldGate

namespace Checked

variable {ε α : Type} {c : Checked ε α} {next : Bool → Checked ε α} {b : Bool} {e : ε}

def settled (b : Bool) : Checked ε α := ⟨.ok b, []⟩

def andThen (c : Checked ε α) (next : Bool → Checked ε α) : Checked ε α :=
  match c.outcome with
  | .error e => ⟨.error e, c.asked⟩
  | .ok b => ⟨(next b).outcome, c.asked ++ (next b).asked⟩

theorem andThen_of_error (h : c.outcome = .error e) : c.andThen next = ⟨.error e, c.asked⟩ := by
  rw [andThen, h]

theorem andThen_of_ok (h : c.outcome = .ok b) :
    c.andThen next = ⟨(next b).outcome, c.asked ++ (next b).asked⟩ := by
  rw [andThen, h]

theorem outcome_andThen (c : Checked ε α) (next : Bool → Checked ε α) :
    (c.andThen next).outcome = c.outcome >>= fun b => (next b).outcome := by
  cases h : c.outcome with
  | error e => rw [andThen_of_error h]; rfl
  | ok b => rw [andThen_of_ok h]; rfl

theorem andThen_settled (c : Checked ε α) : c.andThen settled = c := by
  obtain ⟨outcome, asked⟩ := c
  cases outcome with
  | error e => rfl
  | ok b => simp [andThen, settled]

theorem settled_andThen (b : Bool) (next : Bool → Checked ε α) :
    (settled b).andThen next = next b := rfl

theorem andThen_assoc (c : Checked ε α) (next after : Bool → Checked ε α) :
    (c.andThen next).andThen after = c.andThen fun b => (next b).andThen after := by
  cases hc : c.outcome with
  | error e => rw [andThen_of_error hc, andThen_of_error hc, andThen_of_error rfl]
  | ok b =>
    rw [andThen_of_ok hc, andThen_of_ok hc]
    cases hnext : (next b).outcome with
    | error e => rw [andThen_of_error hnext, andThen_of_error rfl]
    | ok b' => rw [andThen_of_ok hnext, andThen_of_ok rfl, List.append_assoc]

end Checked

namespace Requirement

variable {ε α : Type} {answer : α → Except ε Bool} {q : Quantifier} {found : Bool}
  {r r' : Requirement α} {rs rs' : List (Requirement α)}

/-- What is true of every question, and of every group of requirements that it is true of, is true
of every requirement. -/
@[induction_eliminator]
theorem induction {motive : Requirement α → Prop} (leaf : ∀ a, motive (.leaf a))
    (group : ∀ q rs, (∀ r ∈ rs, motive r) → motive (.group q rs)) (r : Requirement α) : motive r :=
  match r with
  | .leaf a => leaf a
  | .group q rs => group q rs fun r _ => induction leaf group r

theorem check_group (answer : α → Except ε Bool) (q : Quantifier) (rs : List (Requirement α)) :
    check answer (group q rs) = checkEach answer q false rs := rfl

/-- What a group does after a member: it ends if the member settles the verdict. -/
def proceed (answer : α → Except ε Bool) (q : Quantifier) (found : Bool)
    (rs : List (Requirement α)) (b : Bool) : Checked ε α :=
  match q.settled? found b with
  | some verdict => .settled verdict
  | Option.none => checkEach answer q (found || b) rs

/-- A member that settles the verdict ends the group. -/
theorem proceed_of_settled {b verdict : Bool} (hs : q.settled? found b = some verdict) :
    proceed answer q found rs b = .settled verdict := by
  rw [proceed, hs]

/-- A member that does not is counted, and the rest of the group follows. -/
theorem proceed_of_open {b : Bool} (hs : q.settled? found b = Option.none) :
    proceed answer q found rs b = checkEach answer q (found || b) rs := by
  rw [proceed, hs]

theorem checkEach_nil : checkEach answer q found [] = .settled (q.unsettled found) := rfl

theorem checkEach_cons :
    checkEach answer q found (r :: rs) = (check answer r).andThen (proceed answer q found rs) := by
  rw [checkEach, Checked.andThen]
  obtain ⟨outcome, asked⟩ := check answer r
  cases outcome with
  | error e => rfl
  | ok b =>
    cases hs : q.settled? found b with
    | some verdict => simp [proceed_of_settled hs, hs, Checked.settled]
    | none => simp [proceed_of_open hs, hs]

/-- A group of one member, under a quantifier that does not turn it round, is checked as the
member is. -/
theorem checkEach_singleton (hq : q.isIdentityForOne = true) :
    checkEach answer q false [r] = check answer r := by
  have hproceed : proceed answer q false [] = (Checked.settled : Bool → Checked ε α) := by
    funext b
    cases q <;> cases b <;> first | rfl | cases hq
  rw [checkEach_cons, hproceed, Checked.andThen_settled]

/-- A combination is checked as the group is that it may stand for. -/
theorem check_combine (answer : α → Except ε Bool) (q : Quantifier) (rs : List (Requirement α)) :
    check answer (combine q rs) = check answer (group q rs) := by
  unfold combine
  split
  · rename_i r
    split
    · rename_i hq
      exact (checkEach_singleton hq).symm
    · rfl
  · rfl

/-- Only how its members are checked matters to a group. -/
theorem checkEach_congr (h : List.Forall₂ (fun r r' => check answer r = check answer r') rs rs')
    (q : Quantifier) (found : Bool) :
    checkEach answer q found rs = checkEach answer q found rs' := by
  induction h generalizing found with
  | nil => rfl
  | @cons r r' rs rs' hr _ ih =>
    have hproceed : proceed answer q found rs = proceed answer q found rs' := by
      funext b
      cases hs : q.settled? found b with
      | some verdict => rw [proceed_of_settled hs, proceed_of_settled hs]
      | none => rw [proceed_of_open hs, proceed_of_open hs, ih]
    rw [checkEach_cons, checkEach_cons, hr, hproceed]

theorem check_group_congr
    (h : List.Forall₂ (fun r r' => check answer r = check answer r') rs rs') (q : Quantifier) :
    check answer (group q rs) = check answer (group q rs') := checkEach_congr h q false

end Requirement

end FieldGate
