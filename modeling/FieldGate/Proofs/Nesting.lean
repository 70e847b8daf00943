import FieldGate.Proofs.SchemaNames

/-! How the types of a schema hang together. A nested type comes after the one around it, which
lists it once; every type with a handler is a handler type; and the way outwards from a type ends at
one that is not nested. -/
namespace FieldGate

namespace TypeDef

def outline (t : TypeDef) : String × Option TypeId × String × List TypeId × String :=
  (t.package, t.enclosing, t.qualifiedName, t.nested, t.simpleName)

def LiesIn (t p : TypeDef) : Prop :=
  t.package = p.package ∧ t.qualifiedName = p.qualifiedName ++ "." ++ t.simpleName

def hasHandler (t : TypeDef) : Bool := t.methods.any MethodDef.isHandler

end TypeDef

namespace Schema

variable {s s' : Schema} {t p : TypeDef} {id o base owner : TypeId} {name : String}

/-- A nested type comes after the type around it and is named inside it, and each type lists the
types nested in it, each once. -/
structure Nested (s : Schema) : Prop where
  enclosed : ∀ id t o, s.type? id = some t → t.enclosing = some o →
    o.index < id.index ∧ ∃ p, s.type? o = some p ∧ t.LiesIn p
  listed_nodup : ∀ o p, s.type? o = some p → p.nested.Nodup
  listed_iff : ∀ o p, s.type? o = some p → ∀ id, id ∈ p.nested ↔ s.enclosing? id = some o

/-- Handler types are types of the schema, each once, and among them are all types with a
handler. -/
structure Marked (s : Schema) : Prop where
  known : ∀ id ∈ s.handlerTypes, ∃ t, s.type? id = some t
  nodup : s.handlerTypes.Nodup
  complete : ∀ id t, s.type? id = some t → t.hasHandler = true → id ∈ s.handlerTypes

theorem index_lt_of_type? (h : s.type? id = some t) : id.index < s.types.length :=
  (List.getElem?_eq_some_iff.mp h).1

theorem type?_nextType (s : Schema) : s.type? s.nextType = none :=
  List.getElem?_eq_none (Nat.le_refl _)

theorem type?_modifyType (s : Schema) (owner id : TypeId) (f : TypeDef → TypeDef) :
    (s.modifyType owner f).type? id = (s.type? id).map fun t => if id = owner then f t else t := by
  unfold modifyType type?
  rw [List.getElem?_modify]
  have hiff : owner.index = id.index ↔ id = owner := by
    constructor
    · intro h
      exact congrArg TypeId.mk h.symm
    · rintro rfl
      rfl
  simp only [hiff]
  rfl

theorem type?_withType (s : Schema) (t : TypeDef) (id : TypeId) :
    (s.withType t).type? id = if id = s.nextType then some t else s.type? id := by
  unfold withType type?
  split
  · rename_i h
    rw [h]
    exact List.getElem?_concat_length
  · rename_i h
    have hne : id.index ≠ s.types.length := fun hi => h (congrArg TypeId.mk hi)
    rcases Nat.lt_or_ge id.index s.types.length with hlt | hge
    · exact List.getElem?_append_left hlt
    · rw [List.getElem?_eq_none hge, List.getElem?_eq_none]
      simp only [List.length_append, List.length_singleton]
      omega

section Nesting

private theorem exists_of_outline (h : s'.types.map TypeDef.outline = s.types.map TypeDef.outline)
    (ht : s'.type? id = some t) : ∃ t₀, s.type? id = some t₀ ∧ t.outline = t₀.outline := by
  have hi : (s'.types.map TypeDef.outline)[id.index]? = some t.outline := by
    rw [List.getElem?_map]
    exact congrArg (Option.map TypeDef.outline) ht
  rw [h, List.getElem?_map] at hi
  obtain ⟨t₀, ht₀, heq⟩ := Option.map_eq_some_iff.mp hi
  exact ⟨t₀, ht₀, heq.symm⟩

private theorem enclosing?_congr
    (h : s'.types.map TypeDef.outline = s.types.map TypeDef.outline) (id : TypeId) :
    s'.enclosing? id = s.enclosing? id := by
  have henclosing (s : Schema) : s.enclosing? id =
      (s.types.map TypeDef.outline)[id.index]?.bind fun x => x.2.1 := by
    rw [enclosing?, type?, List.getElem?_map]
    cases s.types[id.index]? <;> rfl
  rw [henclosing, henclosing, h]

/-- Nesting is a matter of outlines. -/
theorem Nested.congr (hs : s.Nested)
    (h : s'.types.map TypeDef.outline = s.types.map TypeDef.outline) : s'.Nested where
  enclosed := by
    intro id t o ht ho
    obtain ⟨t₀, ht₀, heq⟩ := exists_of_outline h ht
    simp only [TypeDef.outline, Prod.mk.injEq] at heq
    obtain ⟨hpackage, henclosing, hname, -, hsimple⟩ := heq
    obtain ⟨hlt, p₀, hp₀, hlies⟩ := hs.enclosed id t₀ o ht₀ (henclosing ▸ ho)
    obtain ⟨p, hp, heq'⟩ := exists_of_outline h.symm hp₀
    simp only [TypeDef.outline, Prod.mk.injEq] at heq'
    refine ⟨hlt, p, hp, ?_, ?_⟩
    · rw [hpackage, hlies.1, heq'.1]
    · rw [hname, hlies.2, heq'.2.2.1, hsimple]
  listed_nodup := by
    intro o p hp
    obtain ⟨p₀, hp₀, heq⟩ := exists_of_outline h hp
    simp only [TypeDef.outline, Prod.mk.injEq] at heq
    rw [heq.2.2.2.1]
    exact hs.listed_nodup o p₀ hp₀
  listed_iff := by
    intro o p hp id
    obtain ⟨p₀, hp₀, heq⟩ := exists_of_outline h hp
    simp only [TypeDef.outline, Prod.mk.injEq] at heq
    rw [heq.2.2.2.1, enclosing?_congr h]
    exact hs.listed_iff o p₀ hp₀ id

theorem Nested.modifyType (hs : s.Nested) {f : TypeDef → TypeDef}
    (hf : ∀ t, (f t).outline = t.outline) : (s.modifyType owner f).Nested :=
  hs.congr (map_modify_of_eq hf owner.index)

/-- What becomes of a type when another is declared, which it may come to enclose. -/
def adopt (enclosing : Option TypeId) (new id : TypeId) (p : TypeDef) : TypeDef :=
  if enclosing = some id then { p with nested := p.nested ++ [new] } else p

private theorem adopt_names (enclosing : Option TypeId) (new id : TypeId) (p : TypeDef) :
    (adopt enclosing new id p).package = p.package ∧
      (adopt enclosing new id p).qualifiedName = p.qualifiedName ∧
      (adopt enclosing new id p).simpleName = p.simpleName ∧
      (adopt enclosing new id p).enclosing = p.enclosing := by
  unfold adopt
  split <;> exact ⟨rfl, rfl, rfl, rfl⟩

section Adoption

variable (hs : s.Nested) (hempty : t.nested = [])
  (houter : ∀ o, t.enclosing = some o → ∃ p, s.type? o = some p ∧ t.LiesIn p)
  (hnew : s'.type? s.nextType = some t)
  (hold : ∀ id, id ≠ s.nextType →
    s'.type? id = (s.type? id).map (adopt t.enclosing s.nextType id))

include hnew hold in
private theorem enclosing?_adopted (id : TypeId) :
    s'.enclosing? id = if id = s.nextType then t.enclosing else s.enclosing? id := by
  unfold enclosing?
  split
  · rename_i h
    rw [h, hnew]
    rfl
  · rename_i h
    rw [hold id h]
    cases s.type? id with
    | none => rfl
    | some p => exact (adopt_names t.enclosing s.nextType id p).2.2.2

include hold in
private theorem lies_adopted {u : TypeDef} (hp : s.type? o = some p) (hlies : u.LiesIn p) :
    ∃ p', s'.type? o = some p' ∧ u.LiesIn p' := by
  have hne : o ≠ s.nextType := by
    rintro rfl
    rw [type?_nextType] at hp
    cases hp
  obtain ⟨hpackage, hname, -⟩ := adopt_names t.enclosing s.nextType o p
  refine ⟨adopt t.enclosing s.nextType o p, ?_, ?_, ?_⟩
  · rw [hold o hne, hp]
    rfl
  · rw [hpackage]
    exact hlies.1
  · rw [hname]
    exact hlies.2

include hs houter in
private theorem enclosing_ne_nextType (id : TypeId) :
    (if id = s.nextType then t.enclosing else s.enclosing? id) ≠ some s.nextType := by
  intro h
  split at h
  · obtain ⟨p, hp, -⟩ := houter _ h
    rw [type?_nextType] at hp
    cases hp
  · obtain ⟨u, hu, ho⟩ := Option.bind_eq_some_iff.mp h
    obtain ⟨-, p, hp, -⟩ := hs.enclosed id u _ hu ho
    rw [type?_nextType] at hp
    cases hp

include hs hempty houter hnew hold in
private theorem Nested.adopted : s'.Nested where
  enclosed := by
    intro id u o hu ho
    by_cases hid : id = s.nextType
    · subst hid
      obtain rfl : t = u := Option.some.inj (hnew.symm.trans hu)
      obtain ⟨p, hp, hlies⟩ := houter o ho
      exact ⟨index_lt_of_type? hp, lies_adopted hold hp hlies⟩
    · rw [hold id hid] at hu
      obtain ⟨u₀, hu₀, rfl⟩ := Option.map_eq_some_iff.mp hu
      obtain ⟨hpackage, hname, hsimple, henclosing⟩ := adopt_names t.enclosing s.nextType id u₀
      rw [henclosing] at ho
      obtain ⟨hlt, p, hp, hlies⟩ := hs.enclosed id u₀ o hu₀ ho
      have hlies' : (adopt t.enclosing s.nextType id u₀).LiesIn p := by
        unfold TypeDef.LiesIn
        rw [hpackage, hname, hsimple]
        exact hlies
      exact ⟨hlt, lies_adopted hold hp hlies'⟩
  listed_nodup := by
    intro o p hp
    by_cases ho : o = s.nextType
    · subst ho
      obtain rfl : t = p := Option.some.inj (hnew.symm.trans hp)
      rw [hempty]
      exact List.nodup_nil
    · rw [hold o ho] at hp
      obtain ⟨p₀, hp₀, rfl⟩ := Option.map_eq_some_iff.mp hp
      have hnodup := hs.listed_nodup o p₀ hp₀
      unfold adopt
      split
      · -- the new type is not nested in any type yet
        have hfresh : s.nextType ∉ p₀.nested := by
          intro hmem
          have hsome := (hs.listed_iff o p₀ hp₀ s.nextType).mp hmem
          rw [enclosing?, type?_nextType] at hsome
          cases hsome
        exact hnodup.append (List.nodup_singleton _) (by simpa using hfresh)
      · exact hnodup
  listed_iff := by
    intro o p hp id
    rw [enclosing?_adopted hnew hold]
    by_cases ho : o = s.nextType
    · subst ho
      obtain rfl : t = p := Option.some.inj (hnew.symm.trans hp)
      rw [hempty]
      have hne := enclosing_ne_nextType hs houter id
      simp only [List.not_mem_nil, hne]
    · rw [hold o ho] at hp
      obtain ⟨p₀, hp₀, rfl⟩ := Option.map_eq_some_iff.mp hp
      have hmem := hs.listed_iff o p₀ hp₀ id
      have hnone : s.enclosing? s.nextType = none := by
        rw [enclosing?, type?_nextType]
        rfl
      unfold adopt
      by_cases hid : id = s.nextType
      · subst hid
        rw [hnone] at hmem
        rw [if_pos rfl]
        split
        · rename_i henclosing
          simp [henclosing]
        · rename_i henclosing
          simp only [hmem, henclosing, reduceCtorEq]
      · rw [if_neg hid, ← hmem]
        split
        · simp [hid]
        · exact Iff.rfl

end Adoption

private theorem Nested.addRootType {package : String} (hs : s.Nested)
    (h : s.addRootType package name = .ok (s', id)) : s'.Nested := by
  obtain ⟨-, -, rfl⟩ := insertType_eq_ok (addRootType_eq_ok h).2
  refine hs.adopted rfl ?_ (by rw [type?_withType, if_pos rfl]) ?_
  · intro o ho
    cases ho
  · intro id hid
    rw [type?_withType, if_neg hid]
    cases s.type? id <;> rfl

private theorem Nested.addNestedType (hs : s.Nested)
    (h : s.addNestedType owner name = .ok (s', id)) : s'.Nested := by
  obtain ⟨p, s₁, hp, h₁, rfl⟩ := addNestedType_eq_ok h
  obtain ⟨-, -, rfl⟩ := insertType_eq_ok h₁
  have hne : s.nextType ≠ owner := by
    rintro rfl
    rw [type?_nextType] at hp
    cases hp
  let t : TypeDef :=
    { id := s.nextType, package := p.package, simpleName := name, enclosing := some owner
      qualifiedName := p.qualifiedName ++ "." ++ name }
  refine Nested.adopted (t := t) hs rfl ?_ ?_ ?_
  · intro o ho
    cases ho
    exact ⟨p, hp, rfl, rfl⟩
  · rw [type?_modifyType, type?_withType, if_pos rfl, Option.map_some, if_neg hne]
  · intro id hid
    rw [type?_modifyType, type?_withType, if_neg hid]
    refine congrArg (Option.map · (s.type? id)) (funext fun q => ?_)
    change _ = adopt (some owner) s.nextType id q
    unfold adopt
    simp only [Option.some.injEq, eq_comm (a := owner)]

private theorem Nested.pushMethod {signature : Signature} {handler : Option HandlerSpec}
    {mid : MethodId} (hs : s.Nested)
    (h : s.pushMethod owner name signature handler = .ok (s', mid)) : s'.Nested := by
  obtain ⟨t, -, -, rfl⟩ := pushMethod_eq_ok h
  exact hs.modifyType fun _ => rfl

private theorem Nested.withHandlerType (hs : s.Nested) (owner : TypeId) :
    (s.withHandlerType owner).Nested :=
  hs.congr (congrArg (List.map TypeDef.outline) (types_withHandlerType s owner))

/-- The builder nests types after the types around them, which list them. -/
theorem Buildable.nested (hb : s.Buildable) : s.Nested := by
  induction hb with
  | empty => exact ⟨by simp [type?], by simp [type?], by simp [type?]⟩
  | rootType _ hs ih => exact ih.addRootType hs
  | nestedType _ hs ih => exact ih.addNestedType hs
  | field _ hs ih =>
    obtain ⟨t, -, -, -, rfl⟩ := addField_eq_ok hs
    exact ih.modifyType fun _ => rfl
  | require _ hs ih =>
    rw [require_eq_ok hs]
    exact ih.modifyType fun _ => rfl
  | method _ hs ih => exact ih.pushMethod hs
  | handlerType _ hs ih =>
    obtain ⟨t, -, rfl⟩ := markHandlerType_eq_ok hs
    exact ih.withHandlerType _
  | handler _ hs ih =>
    obtain ⟨s₁, h₁, rfl⟩ := addHandler_eq_ok hs
    exact (ih.pushMethod h₁).withHandlerType _

end Nesting

section Marking

private theorem Marked.insertType {package qualified : String} {enclosing : Option TypeId}
    (hs : s.Marked) (h : s.insertType package name enclosing qualified = .ok s') : s'.Marked := by
  obtain ⟨-, -, rfl⟩ := insertType_eq_ok h
  refine ⟨?_, hs.nodup, ?_⟩
  · intro id hid
    obtain ⟨t, ht⟩ := hs.known id hid
    rw [type?_withType]
    split
    · exact ⟨_, rfl⟩
    · exact ⟨t, ht⟩
  · intro id t ht hhandler
    rw [type?_withType] at ht
    split at ht
    · -- a new type has no methods
      cases ht
      cases hhandler
    · exact hs.complete id t ht hhandler

private theorem Marked.modifyType {f : TypeDef → TypeDef} (hs : s.Marked)
    (hf : ∀ t, (f t).hasHandler = true → t.hasHandler = true ∨ owner ∈ s.handlerTypes) :
    (s.modifyType owner f).Marked := by
  refine ⟨?_, hs.nodup, ?_⟩
  · intro id hid
    obtain ⟨t, ht⟩ := hs.known id hid
    exact ⟨_, by rw [type?_modifyType, ht, Option.map_some]⟩
  · intro id t ht hhandler
    rw [type?_modifyType] at ht
    obtain ⟨t₀, ht₀, rfl⟩ := Option.map_eq_some_iff.mp ht
    split at hhandler
    · rename_i heq
      subst heq
      rcases hf t₀ hhandler with hhad | hmem
      · exact hs.complete id t₀ ht₀ hhad
      · exact hmem
    · exact hs.complete id t₀ ht₀ hhandler

theorem mem_withHandlerType :
    id ∈ (s.withHandlerType owner).handlerTypes ↔ id ∈ s.handlerTypes ∨ id = owner := by
  unfold withHandlerType
  split
  · rename_i h
    have hmem : owner ∈ s.handlerTypes := List.contains_iff_mem.mp h
    constructor
    · exact .inl
    · rintro (hid | rfl)
      · exact hid
      · exact hmem
  · rw [List.mem_append, List.mem_singleton]

private theorem Marked.withHandlerType (hs : s.Marked) (ht : s.type? owner = some t) :
    (s.withHandlerType owner).Marked := by
  have htypes (id : TypeId) : (s.withHandlerType owner).type? id = s.type? id := by
    rw [type?, types_withHandlerType]
    rfl
  refine ⟨?_, ?_, ?_⟩
  · intro id hid
    rw [htypes]
    rcases mem_withHandlerType.mp hid with hid | rfl
    · exact hs.known id hid
    · exact ⟨t, ht⟩
  · unfold Schema.withHandlerType
    split
    · exact hs.nodup
    · rename_i h
      have hfresh : owner ∉ s.handlerTypes := fun hmem => h (List.contains_iff_mem.mpr hmem)
      exact hs.nodup.append (List.nodup_singleton _) (by simpa using hfresh)
  · intro id u hu hhandler
    rw [htypes] at hu
    exact mem_withHandlerType.mpr (.inl (hs.complete id u hu hhandler))

private theorem Marked.pushMethod {signature : Signature} {handler : Option HandlerSpec}
    {mid : MethodId} (hs : s.Marked)
    (h : s.pushMethod owner name signature handler = .ok (s', mid))
    (hmarked : handler.isSome = true → owner ∈ s.handlerTypes) : s'.Marked := by
  obtain ⟨t, -, -, rfl⟩ := pushMethod_eq_ok h
  refine hs.modifyType fun u hu => ?_
  simp only [TypeDef.hasHandler, List.any_append, Bool.or_eq_true] at hu
  rcases hu with hu | hu
  · exact .inl hu
  · rw [List.any_cons, List.any_nil, Bool.or_false] at hu
    exact .inr (hmarked hu)

private theorem pushMethod_withHandlerType {signature : Signature} {handler : Option HandlerSpec}
    {mid : MethodId} (h : s.pushMethod owner name signature handler = .ok (s', mid)) :
    (s.withHandlerType owner).pushMethod owner name signature handler =
      .ok (s'.withHandlerType owner, mid) := by
  unfold Schema.pushMethod at h ⊢
  have htype : (s.withHandlerType owner).type? owner = s.type? owner := by
    rw [type?, types_withHandlerType]
    rfl
  rw [htype]
  split at h
  · cases h
  · cases h
  · cases h
    unfold Schema.withHandlerType Schema.modifyType
    dsimp only
    split <;> rfl

/-- A method is added only to a type that is there, and the type stays. -/
theorem exists_type_of_pushMethod {signature : Signature} {handler : Option HandlerSpec}
    {mid : MethodId} (h : s.pushMethod owner name signature handler = .ok (s', mid)) :
    (∃ t, s.type? owner = some t) ∧ ∃ t, s'.type? owner = some t := by
  obtain ⟨t, ht, -, rfl⟩ := pushMethod_eq_ok h
  exact ⟨⟨t, ht⟩, _, by rw [type?_modifyType, ht, Option.map_some]⟩

/-- The builder makes each type with a handler a handler type. -/
theorem Buildable.marked (hb : s.Buildable) : s.Marked := by
  induction hb with
  | empty => exact ⟨by simp, .nil, by simp [type?]⟩
  | rootType _ hs ih => exact ih.insertType (addRootType_eq_ok hs).2
  | nestedType _ hs ih =>
    obtain ⟨p, s₁, -, h₁, rfl⟩ := addNestedType_eq_ok hs
    exact (ih.insertType h₁).modifyType fun _ => .inl
  | field _ hs ih =>
    obtain ⟨t, -, -, -, rfl⟩ := addField_eq_ok hs
    exact ih.modifyType fun _ => .inl
  | require _ hs ih =>
    rw [require_eq_ok hs]
    exact ih.modifyType fun _ => .inl
  | method _ hs ih => exact ih.pushMethod hs (by simp)
  | handlerType _ hs ih =>
    obtain ⟨t, ht, rfl⟩ := markHandlerType_eq_ok hs
    exact ih.withHandlerType ht
  | handler _ hs ih =>
    obtain ⟨s₁, h₁, rfl⟩ := addHandler_eq_ok hs
    obtain ⟨⟨t, ht⟩, -⟩ := exists_type_of_pushMethod h₁
    exact (ih.withHandlerType ht).pushMethod (pushMethod_withHandlerType h₁)
      fun _ => mem_withHandlerType.mpr (.inr rfl)

end Marking

section Chain

/-- A walk outwards from a type, if there is one to begin with, visits these types and comes to an
end. -/
inductive Climbs (s : Schema) : Option TypeId → List TypeId → Prop
  | stop : Climbs s none []
  | step {id : TypeId} {rest : List TypeId} (h : Climbs s (s.enclosing? id) rest) :
      Climbs s (some id) (id :: rest)

theorem Nested.index_lt (hs : s.Nested) (h : s.enclosing? id = some o) : o.index < id.index := by
  obtain ⟨t, ht, ho⟩ := Option.bind_eq_some_iff.mp h
  exact (hs.enclosed id t o ht ho).1

private theorem Nested.climbs_chainOfLength (hs : s.Nested) {n : Nat} (hn : base.index ≤ n) :
    s.Climbs (some base) (s.chainOfLength n base) := by
  induction n generalizing base with
  | zero =>
    have hnone : s.enclosing? base = none := by
      cases ho : s.enclosing? base with
      | none => rfl
      | some o =>
        have := hs.index_lt ho
        omega
    refine .step ?_
    rw [hnone]
    exact .stop
  | succ n ih =>
    refine .step ?_
    cases ho : s.enclosing? base with
    | none => exact .stop
    | some o =>
      have := hs.index_lt ho
      exact ih (by omega)

/-- The enclosing chain is what a walk outwards visits, to its end. -/
theorem Nested.climbs_enclosingChain (hs : s.Nested) (base : TypeId) :
    s.Climbs (some base) (s.enclosingChain base) :=
  hs.climbs_chainOfLength (Nat.le_refl _)

variable {start : Option TypeId} {chain : List TypeId}

/-- There is one walk outwards. -/
theorem Climbs.eq {chain' : List TypeId} (h : s.Climbs start chain) (h' : s.Climbs start chain') :
    chain = chain' := by
  induction h generalizing chain' with
  | stop =>
    cases h'
    rfl
  | step _ ih =>
    cases h' with
    | step hrest => rw [ih hrest]

/-- The enclosing chain of a nested type goes on with that of the type around it. -/
theorem Nested.enclosingChain_eq_cons (hs : s.Nested) (h : s.enclosing? base = some o) :
    s.enclosingChain base = base :: s.enclosingChain o := by
  apply (hs.climbs_enclosingChain base).eq
  apply Climbs.step
  rw [h]
  exact hs.climbs_enclosingChain o

private theorem Climbs.index_le (h : s.Climbs start chain) (hs : s.Nested) :
    ∀ id, start = some id → ∀ o ∈ chain, o.index ≤ id.index := by
  induction h with
  | stop =>
    intro id hid
    cases hid
  | step h ih =>
    rename_i id₀ rest
    intro id hid o ho
    cases hid
    rcases List.mem_cons.mp ho with rfl | ho
    · exact Nat.le_refl _
    · cases hout : s.enclosing? id₀ with
      | none =>
        rw [hout] at h
        cases h
        cases ho
      | some o' =>
        have hlt := hs.index_lt hout
        have hle := ih o' hout o ho
        omega

/-- A walk outwards leads to ever earlier types. -/
theorem Climbs.pairwise (h : s.Climbs start chain) (hs : s.Nested) :
    chain.Pairwise fun inner outer => outer.index < inner.index := by
  induction h with
  | stop => exact .nil
  | step h ih =>
    rename_i id₀ rest
    refine .cons ?_ ih
    intro o ho
    cases hout : s.enclosing? id₀ with
    | none =>
      rw [hout] at h
      cases h
      cases ho
    | some o' =>
      have hlt := hs.index_lt hout
      have hle := h.index_le hs o' hout o ho
      omega

/-- A walk outwards from a type of the schema ends at a type that is not nested. -/
theorem Climbs.getLast? (h : s.Climbs start chain) (hs : s.Nested) :
    ∀ id t, start = some id → s.type? id = some t →
      ∃ root r, chain.getLast? = some root ∧ s.type? root = some r ∧ r.enclosing = none := by
  induction h with
  | stop =>
    intro id t hid
    cases hid
  | step h ih =>
    rename_i id₀ rest
    intro id t hid ht
    cases hid
    cases hout : t.enclosing with
    | none =>
      have hnone : s.enclosing? id₀ = none := by rw [enclosing?, ht, Option.bind_some, hout]
      rw [hnone] at h
      cases h
      exact ⟨id₀, t, rfl, ht, hout⟩
    | some o =>
      have hsome : s.enclosing? id₀ = some o := by rw [enclosing?, ht, Option.bind_some, hout]
      obtain ⟨-, p, hp, -⟩ := hs.enclosed id₀ t o ht hout
      obtain ⟨root, r, hlast, hr, hroot⟩ := ih o p hsome hp
      refine ⟨root, r, ?_, hr, hroot⟩
      rw [List.getLast?_cons, hlast]
      rfl

end Chain

end Schema
end FieldGate
