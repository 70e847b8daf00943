import FieldGate.Proofs.Checking

/-! Requirements with and without the groups of one member that stand for nothing. No check can tell
them apart: they give the same outcome and ask the same questions. -/
namespace FieldGate

/-- The ways to put requirements together. -/
inductive Combinator
  | all | any | none | one
  | group (q : Quantifier)

namespace Combinator

variable {ε α : Type}

def quantifier : Combinator → Quantifier
  | all => .all
  | any => .any
  | none => .none
  | one => .one
  | group q => q

def combine : Combinator → List (Requirement α) → Requirement α
  | all, rs => .all rs
  | any, rs => .any rs
  | none, rs => .none rs
  | one, rs => .one rs
  | group q, rs => .combine q rs

theorem check_combine (answer : α → Except ε Bool) (k : Combinator) (rs : List (Requirement α)) :
    (k.combine rs).check answer = (Requirement.group k.quantifier rs).check answer := by
  cases k <;> exact Requirement.check_combine answer _ rs

end Combinator

/-- How a requirement is put together out of questions. -/
inductive Expression (α : Type)
  | leaf (question : α)
  | combined (k : Combinator) (members : List (Expression α))
  | not (e : Expression α)

namespace Expression

variable {ε α : Type} {answer : α → Except ε Bool}

mutual

/-- The requirement in which one member alone may stand for its group. -/
def collapsed : Expression α → Requirement α
  | leaf a => .leaf a
  | combined k es => k.combine (collapsedEach es)
  | not e => .not (collapsed e)

def collapsedEach : List (Expression α) → List (Requirement α)
  | [] => []
  | e :: es => collapsed e :: collapsedEach es

end

mutual

def spelledOut : Expression α → Requirement α
  | leaf a => .leaf a
  | combined k es => .group k.quantifier (spelledOutEach es)
  | not e => .group .none [spelledOut e]

def spelledOutEach : List (Expression α) → List (Requirement α)
  | [] => []
  | e :: es => spelledOut e :: spelledOutEach es

end

/-- What is true of every question, and of everything made of expressions that it is true of, is
true of every expression. -/
@[induction_eliminator]
theorem induction {motive : Expression α → Prop} (leaf : ∀ a, motive (.leaf a))
    (combined : ∀ k es, (∀ e ∈ es, motive e) → motive (.combined k es))
    (not : ∀ e, motive e → motive (.not e)) (e : Expression α) : motive e :=
  match e with
  | .leaf a => leaf a
  | .combined k es => combined k es fun e _ => induction leaf combined not e
  | .not e => not e (induction leaf combined not e)

private theorem checks_alike {es : List (Expression α)}
    (h : ∀ e ∈ es, e.collapsed.check answer = e.spelledOut.check answer) :
    List.Forall₂ (fun r r' => Requirement.check answer r = Requirement.check answer r')
      (collapsedEach es) (spelledOutEach es) := by
  induction es with
  | nil => exact .nil
  | cons e es ih =>
    obtain ⟨he, hes⟩ := List.forall_mem_cons.mp h
    exact .cons he (ih hes)

/-- Groups that are left out are not missed: whatever the answers, the outcome is the same, and so
are the questions asked and their order. -/
theorem check_collapsed (answer : α → Except ε Bool) (e : Expression α) :
    e.collapsed.check answer = e.spelledOut.check answer := by
  induction e with
  | leaf a => rfl
  | combined k es ih =>
    calc (k.combine (collapsedEach es)).check answer
      _ = (Requirement.group k.quantifier (collapsedEach es)).check answer :=
        k.check_combine answer _
      _ = (Requirement.group k.quantifier (spelledOutEach es)).check answer :=
        Requirement.check_group_congr (checks_alike ih) _
  | not e ih => exact Requirement.check_group_congr (.cons ih .nil) .none

/-- A question alone in groups of groups stands for all of them. -/
example (a : α) : (combined .all [combined .one [leaf a]]).collapsed = .leaf a := rfl

end Expression

end FieldGate
