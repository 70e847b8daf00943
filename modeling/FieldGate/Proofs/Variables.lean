import FieldGate.Handler.Arguments
import FieldGate.Proofs.CommonType

/-! What the type variables of a signature come to stand for. The entries are looked at from left to
right, but in the end a variable stands for what the types of its entries have in common. -/
namespace FieldGate

open ValueType

def ParamType.isVariable (name : String) : ParamType → Bool
  | .generic n _ => n == name
  | _ => false

namespace Bindings

variable {b : Bindings} {name name' : String} {p : ParamType}

theorem get?_set_self : (b.set name p).get? name = some p := by
  simp [get?, set]

theorem get?_set_of_ne (h : name' ≠ name) : (b.set name p).get? name' = b.get? name' := by
  rw [get?, set, List.lookup_cons, beq_eq_false_iff_ne.mpr h]
  rfl

end Bindings

namespace Signature

/-- The types of the entries that a variable takes in: those in its positions, if they are accepted
there. -/
def takenIn (params : List ParamType) (types : List ValueType) (name : String) : List ValueType :=
  ((params.zip types).filter fun x => x.1.isVariable name && x.1.accepts x.2).map Prod.snd

/-- Each variable stands for what the types seen in its positions have in common. -/
structure Tallies (b : Bindings) (seen : String → List ValueType) : Prop where
  alike : ∀ name, Alike (seen name)
  bound : ∀ name, b.get? name = common? (seen name)

variable {b : Bindings} {seen : String → List ValueType} {p joined : ParamType}
  {params : List ParamType} {bound : TypeBound} {t : ValueType} {types : List ValueType}
  {n name : String}

theorem tallies_nil : Tallies [] fun _ => [] where
  alike _ := alike_nil
  bound _ := rfl

theorem takenIn_cons (p : ParamType) (params : List ParamType) (t : ValueType)
    (types : List ValueType) (name : String) :
    takenIn (p :: params) (t :: types) name =
      takenIn [p] [t] name ++ takenIn params types name := by
  simp only [takenIn, List.zip_cons_cons, List.filter_cons, List.zip_nil_right, List.filter_nil]
  split <;> rfl

theorem takenIn_nil_right (params : List ParamType) (name : String) :
    takenIn params [] name = [] := by
  rw [takenIn, List.zip_nil_right]
  rfl

private theorem takenIn_generic (h : bound.accepts t = true) :
    takenIn [.generic n bound] [t] name = if n = name then [t] else [] := by
  by_cases hn : n = name
  · simp [takenIn, ParamType.isVariable, ParamType.accepts, h, hn]
  · simp [takenIn, ParamType.isVariable, hn]

private theorem takenIn_eq_nil (h : (p.isVariable name && p.accepts t) = false) :
    takenIn [p] [t] name = [] := by
  simp [takenIn, h]

private theorem Tallies.set (h : Tallies b seen) (hb : bound.accepts t = true)
    (hj : common? (seen n ++ [t]) = some joined) :
    Tallies (b.set n joined) fun name => seen name ++ takenIn [.generic n bound] [t] name := by
  constructor
  · intro name
    rw [takenIn_generic hb]
    split_ifs with hn
    · subst hn
      exact (exists_common?_iff.mp ⟨joined, hj⟩).2
    · rw [List.append_nil]
      exact h.alike name
  · intro name
    rw [takenIn_generic hb]
    split_ifs with hn
    · subst hn
      rw [Bindings.get?_set_self, hj]
    · rw [Bindings.get?_set_of_ne (Ne.symm hn), List.append_nil]
      exact h.bound name

private theorem bindOne_generic (h : Tallies b seen) (hb : bound.accepts t = true) :
    (∃ joined, common? (seen n ++ [t]) = some joined ∧
        bindOne b (.generic n bound) t = (b.set n joined, [])) ∨
      common? (seen n ++ [t]) = none ∧ (bindOne b (.generic n bound) t).2 ≠ [] := by
  have hbound := h.bound n
  cases hget : b.get? n with
  | none =>
    left
    rw [hget] at hbound
    refine ⟨.exact t, ?_, by simp [bindOne, hb, hget]⟩
    rw [(h.alike n).eq_nil_of_common? hbound.symm]
    exact common?_eq_exact_iff.mpr ⟨by simp, by simp⟩
  | some previous =>
    rw [hget] at hbound
    have hne := (exists_common?_iff.mp ⟨previous, hbound.symm⟩).1
    have hjoin : common? (seen n ++ [t]) = previous.join? t := by
      rw [common?_concat hne, ← hbound, Option.bind_some]
    rw [hjoin]
    cases hj : previous.join? t with
    | some joined => exact .inl ⟨joined, rfl, by simp [bindOne, hb, hget, hj]⟩
    | none => exact .inr ⟨rfl, by simp [bindOne, hb, hget, hj]⟩

private theorem bindOne_spec (h : Tallies b seen) (p : ParamType) (t : ValueType) :
    ((bindOne b p t).2 = [] ∧ Tallies (bindOne b p t).1 fun n => seen n ++ takenIn [p] [t] n) ∨
      (bindOne b p t).2 ≠ [] ∧ ∃ n, ¬ Alike (seen n ++ takenIn [p] [t] n) := by
  have hkeep (hnone : ∀ n, (p.isVariable n && p.accepts t) = false) :
      Tallies b fun n => seen n ++ takenIn [p] [t] n := by
    simpa only [takenIn_eq_nil (hnone _), List.append_nil] using h
  cases p with
  | generic n bound =>
    by_cases hb : bound.accepts t = true
    · rcases bindOne_generic (n := n) h hb with ⟨joined, hj, hbind⟩ | ⟨hnone, hdefects⟩
      · left
        rw [hbind]
        exact ⟨rfl, h.set hb hj⟩
      · right
        refine ⟨hdefects, n, fun halike => ?_⟩
        rw [takenIn_generic hb, if_pos rfl] at halike
        simpa using halike.eq_nil_of_common? hnone
    · left
      rw [Bool.not_eq_true] at hb
      have hbind : bindOne b (.generic n bound) t = (b, []) := by simp [bindOne, hb]
      rw [hbind]
      exact ⟨rfl, hkeep fun name => by simp [ParamType.accepts, hb]⟩
  | _ => exact .inl ⟨rfl, hkeep fun name => rfl⟩

/-- The binding succeeds just if each variable takes in types that are alike, and then each stands
for what they have in common. -/
theorem bindFixed_spec (h : Tallies b seen) (params : List ParamType) (types : List ValueType) :
    ((bindFixed b params types).2 = [] ↔ ∀ n, Alike (seen n ++ takenIn params types n)) ∧
      ((bindFixed b params types).2 = [] →
        Tallies (bindFixed b params types).1 fun n => seen n ++ takenIn params types n) := by
  induction params generalizing b seen types with
  | nil =>
    simp only [bindFixed, takenIn, List.zip_nil_left, List.filter_nil, List.map_nil,
      List.append_nil, true_iff, true_implies]
    exact ⟨h.alike, h⟩
  | cons p params ih =>
    cases types with
    | nil =>
      simp only [bindFixed, takenIn_nil_right, List.append_nil, true_iff, true_implies]
      exact ⟨h.alike, h⟩
    | cons t types =>
      simp only [bindFixed, takenIn_cons p params t types, ← List.append_assoc]
      rcases bindOne_spec h p t with ⟨hnil, htally⟩ | ⟨hne, n, hn⟩
      · rw [hnil, List.nil_append]
        exact ih htally types
      · constructor
        · refine iff_of_false (fun hall => hne (List.append_eq_nil_iff.mp hall).1) fun hall => hn ?_
          exact (hall n).of_append_left
        · exact fun hall => absurd (List.append_eq_nil_iff.mp hall).1 hne

/-- Entries that a variadic element takes together: it accepts each of them, and if it is a variable
they are alike. -/
structure Gathers (element : ParamType) (ts : List ValueType) : Prop where
  accepted : ∀ t ∈ ts, element.accepts t = true
  alike : ∀ n bound, element = .generic n bound → Alike ts

def gathered? (element : ParamType) (ts : List ValueType) : Option ParamType :=
  if ts = [] then none else some ((common? ts).getD element.erase)

variable {element : ParamType} {ts : List ValueType}

theorem gathers_nil (element : ParamType) : Gathers element [] where
  accepted := by simp
  alike _ _ _ := alike_nil

theorem Gathers.of_append_left {us : List ValueType} (h : Gathers element (ts ++ us)) :
    Gathers element ts where
  accepted t ht := h.accepted t (List.mem_append_left _ ht)
  alike n bound heq := (h.alike n bound heq).of_append_left

private theorem gathered?_of_ne_nil (h : ts ≠ []) :
    gathered? element ts = some ((common? ts).getD element.erase) := if_neg h

/-- The entries of a variable have a common type as soon as there are any. -/
theorem Gathers.gathered?_generic (h : Gathers (.generic n bound) ts) :
    gathered? (.generic n bound) ts = common? ts := by
  by_cases hts : ts = []
  · rw [hts]
    rfl
  · obtain ⟨p, hp⟩ := exists_common?_iff.mpr ⟨hts, h.alike n bound rfl⟩
    rw [gathered?_of_ne_nil hts, hp, Option.getD_some]

private theorem join?_of_accepts (hp : ∀ n bound, p ≠ .generic n bound) (h : p.accepts t = true) :
    p.join? t = some p := by
  cases p with
  | exact u => exact if_pos (of_decide_eq_true h)
  | number => exact if_pos h
  | any => rfl
  | generic n bound => exact absurd rfl (hp n bound)

private theorem erase_of_ne_generic (hp : ∀ n bound, p ≠ .generic n bound) : p.erase = p := by
  cases p with
  | generic n bound => exact absurd rfl (hp n bound)
  | _ => rfl

private theorem joinVariadic_generic (h : Gathers (.generic n bound) ts) (hne : ts ≠ [])
    (ht : bound.accepts t = true) :
    (Alike (ts ++ [t]) ∧
        joinVariadic (.generic n bound) (gathered? (.generic n bound) ts) t =
          (gathered? (.generic n bound) (ts ++ [t]), [])) ∨
      ¬ Alike (ts ++ [t]) ∧
        (joinVariadic (.generic n bound) (gathered? (.generic n bound) ts) t).2 ≠ [] := by
  have haccepts : ParamType.accepts (.generic n bound) t = true := ht
  obtain ⟨previous, hprevious⟩ := exists_common?_iff.mpr ⟨hne, h.alike n bound rfl⟩
  have hconcat := common?_concat hne t
  rw [hprevious, Option.bind_some] at hconcat
  rw [gathered?_of_ne_nil hne, gathered?_of_ne_nil (List.concat_ne_nil t ts), hprevious, hconcat,
    Option.getD_some]
  cases hj : previous.join? t with
  | some joined =>
    left
    refine ⟨?_, by simp [joinVariadic, haccepts, hj]⟩
    exact (exists_common?_iff.mp ⟨joined, hconcat.trans hj⟩).2
  | none =>
    right
    refine ⟨fun halike => ?_, by simp [joinVariadic, haccepts, hj]⟩
    exact List.concat_ne_nil t ts (halike.eq_nil_of_common? (hconcat.trans hj))

private theorem joinVariadic_declared (hp : ∀ n bound, element ≠ .generic n bound) (hne : ts ≠ [])
    (ht : element.accepts t = true) :
    joinVariadic element (gathered? element ts) t = (gathered? element (ts ++ [t]), []) := by
  rw [gathered?_of_ne_nil hne, gathered?_of_ne_nil (List.concat_ne_nil t ts),
    erase_of_ne_generic hp, common?_concat hne t]
  cases common? ts with
  | none => simp [joinVariadic, ht, join?_of_accepts hp ht]
  | some previous =>
    rw [Option.getD_some, Option.bind_some]
    cases hj : previous.join? t with
    | some joined => simp [joinVariadic, ht, hj]
    | none =>
      cases element with
      | generic n bound => exact absurd rfl (hp n bound)
      | _ => simp [joinVariadic, ht, hj, ParamType.erase]

private theorem joinVariadic_spec (h : Gathers element ts) (t : ValueType) :
    (Gathers element (ts ++ [t]) ∧
        joinVariadic element (gathered? element ts) t = (gathered? element (ts ++ [t]), [])) ∨
      ¬ Gathers element (ts ++ [t]) ∧ (joinVariadic element (gathered? element ts) t).2 ≠ [] := by
  cases ht : element.accepts t with
  | false =>
    right
    refine ⟨fun hall => ?_, by simp [joinVariadic, ht]⟩
    cases ht.symm.trans (hall.accepted t (by simp))
  | true =>
    have haccepted : ∀ u ∈ ts ++ [t], element.accepts u = true := by
      rw [List.forall_mem_append, List.forall_mem_singleton]
      exact ⟨h.accepted, ht⟩
    by_cases hts : ts = []
    · left
      subst hts
      refine ⟨⟨haccepted, fun _ _ _ => alike_singleton t⟩, ?_⟩
      simp [joinVariadic, gathered?, ht, common?]
    by_cases hp : ∃ n bound, element = .generic n bound
    · obtain ⟨n, bound, rfl⟩ := hp
      rcases joinVariadic_generic h hts ht with ⟨halike, hjoin⟩ | ⟨hnot, hdefects⟩
      · exact .inl ⟨⟨haccepted, fun _ _ _ => halike⟩, hjoin⟩
      · exact .inr ⟨fun hall => hnot (hall.alike n bound rfl), hdefects⟩
    · push Not at hp
      left
      exact ⟨⟨haccepted, fun n bound heq => absurd heq (hp n bound)⟩,
        joinVariadic_declared hp hts ht⟩

/-- The entries in variadic position are inferred a type just if the element gathers them. -/
theorem inferVariadic_spec (h : Gathers element ts) (types : List ValueType) :
    ((inferVariadic element (gathered? element ts) types).2 = [] ↔ Gathers element (ts ++ types)) ∧
      ((inferVariadic element (gathered? element ts) types).2 = [] →
        (inferVariadic element (gathered? element ts) types).1 =
          gathered? element (ts ++ types)) := by
  induction types generalizing ts with
  | nil =>
    simp only [inferVariadic, List.append_nil, true_iff]
    exact ⟨h, fun _ => trivial⟩
  | cons t types ih =>
    rw [← List.singleton_append, ← List.append_assoc]
    simp only [List.singleton_append, inferVariadic]
    rcases joinVariadic_spec h t with ⟨hgathers, hjoin⟩ | ⟨hnot, hdefects⟩
    · rw [hjoin, List.nil_append]
      exact ih hgathers
    · constructor
      · refine iff_of_false (fun hall => ?_) fun hall => hnot hall.of_append_left
        exact hdefects (List.append_eq_nil_iff.mp hall).1
      · exact fun hall => absurd (List.append_eq_nil_iff.mp hall).1 hdefects

private theorem inferVariadic_declared (hp : ∀ n bound, element ≠ .generic n bound)
    (hts : ∀ t ∈ ts, element.accepts t = true) (types : List ValueType) :
    inferVariadic element (gathered? element ts) types =
      (gathered? element (ts ++ types.filter element.accepts),
        (types.filter fun t => !element.accepts t).map (.notAssignable · element)) := by
  have hgathers {ts : List ValueType} (hts : ∀ t ∈ ts, element.accepts t = true) :
      Gathers element ts := ⟨hts, fun n bound heq => absurd heq (hp n bound)⟩
  induction types generalizing ts with
  | nil => simp [inferVariadic]
  | cons t types ih =>
    cases ht : element.accepts t with
    | false => simp [inferVariadic, joinVariadic, ht, ih hts]
    | true =>
      have hts' : ∀ u ∈ ts ++ [t], element.accepts u = true := by
        rw [List.forall_mem_append, List.forall_mem_singleton]
        exact ⟨hts, ht⟩
      obtain ⟨-, hjoin⟩ := (joinVariadic_spec (hgathers hts) t).resolve_right
        fun hnot => hnot.1 (hgathers hts')
      simp [inferVariadic, hjoin, ih hts', ht]

private theorem getD_gathered? (hp : ∀ n bound, element ≠ .generic n bound) :
    (gathered? element ts).getD element = (common? ts).getD element := by
  rw [gathered?, erase_of_ne_generic hp]
  split_ifs with hts
  · rw [hts]
    rfl
  · rfl

/-- An element that is no variable is resolved to what the entries have in common that it accepts.
-/
theorem resolveVariadic_of_ne_generic (hp : ∀ n bound, element ≠ .generic n bound)
    (b : Bindings) (types : List ValueType) :
    resolveVariadic b element types =
      ((common? (types.filter element.accepts)).getD element, b,
        (types.filter fun t => !element.accepts t).map (.notAssignable · element)) := by
  have hinfer : inferVariadic element (gathered? element []) types = _ :=
    inferVariadic_declared hp (by simp) types
  rw [List.nil_append] at hinfer
  have hresolve : resolveVariadic b element types =
      ((inferVariadic element (gathered? element []) types).1.getD element, b,
        (inferVariadic element (gathered? element []) types).2) := by
    cases element with
    | generic n bound => exact absurd rfl (hp n bound)
    | _ => rfl
  rw [hresolve, hinfer, getD_gathered? hp]

/-- Without a defect, it gathers all of them. -/
theorem resolveVariadic_declared (hp : ∀ n bound, element ≠ .generic n bound)
    (b : Bindings) (types : List ValueType) :
    ((resolveVariadic b element types).2.2 = [] ↔ Gathers element types) ∧
      ((resolveVariadic b element types).2.2 = [] →
        (resolveVariadic b element types).1 = (common? types).getD element ∧
          (resolveVariadic b element types).2.1 = b) := by
  have hnil : (types.filter fun t => !element.accepts t).map
      (ArgumentDefect.notAssignable · element) = [] ↔ ∀ t ∈ types, element.accepts t = true := by
    simp
  rw [resolveVariadic_of_ne_generic hp]
  dsimp only
  rw [hnil]
  constructor
  · exact ⟨fun hall => ⟨hall, fun n bound heq => absurd heq (hp n bound)⟩, fun h => h.accepted⟩
  · intro hall
    rw [List.filter_eq_self.mpr hall]
    exact ⟨rfl, rfl⟩

/-- A variable that no fixed position has bound gathers the entries and is bound to their type. -/
theorem resolveVariadic_unbound (hb : b.get? n = none) (bound : TypeBound)
    (types : List ValueType) :
    ((resolveVariadic b (.generic n bound) types).2.2 = [] ↔
        Gathers (.generic n bound) types) ∧
      ((resolveVariadic b (.generic n bound) types).2.2 = [] →
        (resolveVariadic b (.generic n bound) types).1 = (common? types).getD bound.toParam ∧
          ∀ name, (resolveVariadic b (.generic n bound) types).2.1.get? name =
            (b.get? name).or (if n = name then common? types else none)) := by
  obtain ⟨hiff, htype⟩ := inferVariadic_spec (gathers_nil (.generic n bound)) types
  rw [List.nil_append] at hiff htype
  have hstart : gathered? (.generic n bound) [] = none := rfl
  rw [hstart] at hiff htype
  simp only [resolveVariadic, hb]
  cases hinfer : inferVariadic (.generic n bound) none types with
  | mk common defects =>
    rw [hinfer] at hiff htype
    dsimp only at hiff htype
    cases common with
    | none =>
      refine ⟨hiff, fun hnil => ?_⟩
      have hcommon := (hiff.mp hnil).gathered?_generic.symm.trans (htype hnil).symm
      rw [hcommon]
      refine ⟨rfl, fun name => ?_⟩
      rw [ite_self, Option.or_none]
    | some p =>
      refine ⟨hiff, fun hnil => ?_⟩
      have hcommon := (hiff.mp hnil).gathered?_generic.symm.trans (htype hnil).symm
      rw [hcommon]
      refine ⟨rfl, fun name => ?_⟩
      split_ifs with hname
      · subst hname
        rw [Bindings.get?_set_self, hb]
        rfl
      · rw [Bindings.get?_set_of_ne (Ne.symm hname), Option.or_none]

end Signature

end FieldGate
