import FieldGate.Warning
import Mathlib.Data.List.Forall2

/-! Results of chains of steps. A chain succeeds with what its steps succeed with and fails with the
error of one of them, and warnings have no part in that. -/
namespace FieldGate

section Except

variable {ε δ α β : Type}

theorem bind_eq_ok_iff {x : Except ε α} {f : α → Except ε β} {b : β} :
    x >>= f = .ok b ↔ ∃ a, x = .ok a ∧ f a = .ok b := by
  cases x with
  | error e => simp [bind, Except.bind]
  | ok a => simp [bind, Except.bind]

theorem bind_eq_error_iff {x : Except ε α} {f : α → Except ε β} {e : ε} :
    x >>= f = .error e ↔ x = .error e ∨ ∃ a, x = .ok a ∧ f a = .error e := by
  cases x with
  | error e' => simp [bind, Except.bind]
  | ok a => simp [bind, Except.bind]

theorem map_eq_ok_iff {x : Except ε α} {f : α → β} {b : β} :
    x.map f = .ok b ↔ ∃ a, x = .ok a ∧ f a = b := by
  cases x with
  | error e => simp [Except.map]
  | ok a => simp [Except.map]

@[simp] theorem mapError_eq_ok_iff {x : Except ε α} {f : ε → δ} {a : α} :
    x.mapError f = .ok a ↔ x = .ok a := by
  cases x with
  | error e => simp [Except.mapError]
  | ok a => simp [Except.mapError]

theorem mapError_eq_error_iff {x : Except ε α} {f : ε → δ} {e : δ} :
    x.mapError f = .error e ↔ ∃ e', x = .error e' ∧ e = f e' := by
  cases x with
  | error e' => simp [Except.mapError, eq_comm]
  | ok a => simp [Except.mapError]

/-- A list is mapped successfully if each item is. -/
theorem mapM_eq_ok_iff {f : α → Except ε β} {as : List α} {bs : List β} :
    as.mapM f = .ok bs ↔ List.Forall₂ (fun a b => f a = .ok b) as bs := by
  induction as generalizing bs with
  | nil =>
    rw [List.mapM_nil, List.forall₂_nil_left_iff]
    constructor
    · rintro ⟨⟩
      rfl
    · rintro rfl
      rfl
  | cons a as ih =>
    rw [List.mapM_cons, bind_eq_ok_iff, List.forall₂_cons_left_iff]
    constructor
    · rintro ⟨b, hb, h⟩
      obtain ⟨bs', hbs, ⟨⟩⟩ := bind_eq_ok_iff.mp h
      exact ⟨b, bs', hb, ih.mp hbs, rfl⟩
    · rintro ⟨b, bs', hb, hbs, rfl⟩
      exact ⟨b, hb, bind_eq_ok_iff.mpr ⟨bs', ih.mpr hbs, rfl⟩⟩

end Except

section Fails

variable {ε δ α β : Type} {P : ε → Prop} {x : Except ε α}

/-- Whenever a result is an error, it is one of some kind. -/
def FailsAs (P : ε → Prop) (x : Except ε α) : Prop := ∀ e, x = .error e → P e

theorem failsAs_ok (a : α) : FailsAs P (.ok a) := by
  intro e h
  cases h

theorem failsAs_error {e : ε} (h : P e) : FailsAs P (.error e : Except ε α) := by
  intro e' h'
  cases h'
  exact h

theorem FailsAs.bind {f : α → Except ε β} (hx : FailsAs P x)
    (hf : ∀ a, x = .ok a → FailsAs P (f a)) : FailsAs P (x >>= f) := by
  cases x with
  | error e => exact failsAs_error (hx e rfl)
  | ok a => exact hf a rfl

theorem FailsAs.map (hx : FailsAs P x) (f : α → β) : FailsAs P (x.map f) := by
  cases x with
  | error e => exact failsAs_error (hx e rfl)
  | ok a => exact failsAs_ok (f a)

theorem FailsAs.mapError {Q : δ → Prop} {f : ε → δ} (hx : FailsAs P x) (h : ∀ e, P e → Q (f e)) :
    FailsAs Q (x.mapError f) := by
  cases x with
  | error e => exact failsAs_error (h e (hx e rfl))
  | ok a => exact failsAs_ok a

theorem failsAs_mapError {Q : δ → Prop} {f : ε → δ} (h : ∀ e, Q (f e)) (x : Except ε α) :
    FailsAs Q (x.mapError f) := by
  cases x with
  | error e => exact failsAs_error (h e)
  | ok a => exact failsAs_ok a

theorem failsAs_mapM {f : α → Except ε β} {as : List α} (h : ∀ a ∈ as, FailsAs P (f a)) :
    FailsAs P (as.mapM f) := by
  induction as with
  | nil => exact failsAs_ok []
  | cons a as ih =>
    obtain ⟨ha, has⟩ := List.forall_mem_cons.mp h
    rw [List.mapM_cons]
    refine ha.bind fun b _ => ?_
    exact (ih has).bind fun bs _ => failsAs_ok _

end Fails

section Related

variable {α β γ : Type} {R : α → β → Prop} {as : List α} {bs : List β}

theorem forall₂_comp {S : β → γ → Prop} {T : α → γ → Prop} {cs : List γ}
    (hR : List.Forall₂ R as bs) (hS : List.Forall₂ S bs cs)
    (h : ∀ a ∈ as, ∀ b c, R a b → S b c → T a c) : List.Forall₂ T as cs := by
  induction hR generalizing cs with
  | nil =>
    cases hS
    exact .nil
  | cons hr _ ih =>
    cases hS with
    | cons hs hS =>
      exact .cons (h _ List.mem_cons_self _ _ hr hs)
        (ih hS fun a ha => h a (List.mem_cons_of_mem _ ha))

/-- Lists that are related through one between them, item by item, are flattened alike. -/
theorem flatMap_eq_of_forall₂ {δ : Type} {S : β → γ → Prop} {cs : List γ} {f : α → List δ}
    {g : β → List δ} (hR : List.Forall₂ R as bs) (hS : List.Forall₂ S bs cs)
    (h : ∀ a b c, R a b → S b c → g b = f a) : bs.flatMap g = as.flatMap f := by
  induction hR generalizing cs with
  | nil => rfl
  | cons hr _ ih =>
    cases hS with
    | cons hs hS => rw [List.flatMap_cons, List.flatMap_cons, h _ _ _ hr hs, ih hS]

theorem exists_forall₂_iff : (∃ bs, List.Forall₂ R as bs) ↔ ∀ a ∈ as, ∃ b, R a b := by
  induction as with
  | nil =>
    simp only [List.not_mem_nil, false_implies, implies_true, iff_true]
    exact ⟨[], .nil⟩
  | cons a as ih =>
    rw [List.forall_mem_cons, ← ih]
    constructor
    · rintro ⟨_, h⟩
      cases h with
      | cons hr hrest => exact ⟨⟨_, hr⟩, _, hrest⟩
    · rintro ⟨⟨b, hr⟩, bs, hrest⟩
      exact ⟨b :: bs, .cons hr hrest⟩

theorem exists_right_of_mem {a : α} (h : List.Forall₂ R as bs) (ha : a ∈ as) :
    ∃ b ∈ bs, R a b := by
  induction h with
  | nil => cases ha
  | cons hr _ ih =>
    rcases List.mem_cons.mp ha with rfl | ha
    · exact ⟨_, List.mem_cons_self, hr⟩
    · obtain ⟨b, hb, hab⟩ := ih ha
      exact ⟨b, List.mem_cons_of_mem _ hb, hab⟩

theorem exists_left_of_mem {b : β} (h : List.Forall₂ R as bs) (hb : b ∈ bs) :
    ∃ a ∈ as, R a b :=
  exists_right_of_mem h.flip hb

/-- What a list is mapped to comes from its items. -/
theorem exists_of_mem_mapM {ε : Type} {f : α → Except ε β} {b : β} (h : as.mapM f = .ok bs)
    (hb : b ∈ bs) : ∃ a ∈ as, f a = .ok b := by
  obtain ⟨a, ha, hab⟩ := exists_left_of_mem (mapM_eq_ok_iff.mp h) hb
  exact ⟨a, ha, hab⟩

end Related

namespace Noted

variable {ε δ α β : Type}

@[simp] theorem result_ok (a : α) : (Noted.ok a : Noted ε α).result = .ok a := rfl

@[simp] theorem result_pure (a : α) : (pure a : Noted ε α).result = .ok a := rfl

@[simp] theorem result_error (e : ε) : (Noted.error e : Noted ε α).result = .error e := rfl

@[simp] theorem result_ofExcept (r : Except ε α) : (ofExcept r).result = r := rfl

@[simp] theorem result_warn (w : Warning) : (warn w : Noted ε Unit).result = .ok () := rfl

@[simp] theorem result_mapError (f : ε → δ) (x : Noted ε α) :
    (x.mapError f).result = x.result.mapError f := rfl

@[simp] theorem result_andThen (x : Noted ε α) (f : α → Noted ε β) :
    (x.andThen f).result = x.result >>= fun a => (f a).result := by
  unfold andThen
  cases x.result <;> rfl

@[simp] theorem result_bind (x : Noted ε α) (f : α → Noted ε β) :
    (x >>= f).result = x.result >>= fun a => (f a).result := result_andThen x f

@[simp] theorem result_each (f : α → Noted ε β) (as : List α) :
    (each f as).result = as.mapM fun a => (f a).result := by
  induction as with
  | nil => rfl
  | cons a as ih =>
    rw [each, result_andThen, List.mapM_cons]
    refine congrArg _ (funext fun b => ?_)
    rw [result_andThen, ih]
    rfl

end Noted

end FieldGate
