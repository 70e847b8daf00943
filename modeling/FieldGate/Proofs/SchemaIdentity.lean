import FieldGate.Proofs.BuilderSteps
import Mathlib.Data.List.Nodup

/-! What identifies the members of a schema. In a schema made by the builder each type and member
stands at the place that its identity says, and no two fields share a key. -/
namespace FieldGate

/-- A type stands at the place of its identity with all its members, and its fields are told apart
by names that are identifiers. -/
structure TypeDef.SoundAt (t : TypeDef) (id : TypeId) : Prop where
  id_eq : t.id = id
  field_id : ∀ (j : Nat) (f : FieldDef), t.fields[j]? = some f → f.id = ⟨id, j⟩
  method_id : ∀ (j : Nat) (m : MethodDef), t.methods[j]? = some m → m.id = ⟨id, j⟩
  names_nodup : (t.fields.map FieldDef.name).Nodup
  identifiers : ∀ f ∈ t.fields, isIdentifier f.name.toList

section Lists

variable {α β : Type} {as : List α} {P : Nat → α → Prop}

theorem forall_getElem?_concat {a : α} (h : ∀ i b, as[i]? = some b → P i b)
    (ha : P as.length a) : ∀ i b, (as ++ [a])[i]? = some b → P i b := by
  intro i b hb
  rcases Nat.lt_trichotomy i as.length with hi | rfl | hi
  · rw [List.getElem?_append_left hi] at hb
    exact h i b hb
  · rw [List.getElem?_concat_length, Option.some.injEq] at hb
    exact hb ▸ ha
  · rw [List.getElem?_eq_none (by rw [List.length_append, List.length_singleton]; omega)] at hb
    cases hb

theorem forall_getElem?_modify {f : α → α} {k : Nat} (h : ∀ i b, as[i]? = some b → P i b)
    (hf : ∀ b, as[k]? = some b → P k b → P k (f b)) :
    ∀ i b, (as.modify k f)[i]? = some b → P i b := by
  intro i b hb
  by_cases hi : k = i
  · subst hi
    rw [List.getElem?_modify_eq] at hb
    obtain ⟨a, ha, rfl⟩ := Option.map_eq_some_iff.mp hb
    exact hf a ha (h k a ha)
  · rw [List.getElem?_modify_ne _ _ hi] at hb
    exact h i b hb

theorem map_modify_of_eq {f : α → α} {g : α → β} (h : ∀ a, g (f a) = g a) (k : Nat) :
    (as.modify k f).map g = as.map g := by
  refine List.ext_getElem? fun i => ?_
  rw [List.getElem?_map, List.getElem?_map]
  by_cases hi : k = i
  · subst hi
    rw [List.getElem?_modify_eq]
    cases as[k]? <;> simp [h]
  · rw [List.getElem?_modify_ne _ _ hi]

private theorem nodup_map_concat {a : α} {g : α → β} (h : (as.map g).Nodup)
    (ha : g a ∉ as.map g) : ((as ++ [a]).map g).Nodup := by
  rw [List.map_append, List.nodup_append]
  refine ⟨h, List.nodup_singleton _, ?_⟩
  rintro _ hb _ hc rfl
  rw [List.map_singleton, List.mem_singleton] at hc
  exact ha (hc ▸ hb)

end Lists

namespace TypeDef.SoundAt

variable {t : TypeDef} {id : TypeId}

private theorem addField {f : FieldDef} (ht : t.SoundAt id) (hid : f.id = ⟨id, t.fields.length⟩)
    (hname : isIdentifier f.name.toList) (hfresh : ¬ (t.fieldNamed? f.name).isSome) :
    SoundAt { t with fields := t.fields ++ [f] } id where
  id_eq := ht.id_eq
  field_id := forall_getElem?_concat ht.field_id hid
  method_id := ht.method_id
  names_nodup := by
    refine nodup_map_concat ht.names_nodup fun hmem => hfresh ?_
    obtain ⟨g, hg, heq⟩ := List.mem_map.mp hmem
    exact List.find?_isSome.mpr ⟨g, hg, beq_iff_eq.mpr heq⟩
  identifiers := by
    intro g hg
    rcases List.mem_append.mp hg with hg | hg
    · exact ht.identifiers g hg
    · exact List.mem_singleton.mp hg ▸ hname

private theorem addMethod {m : MethodDef} (ht : t.SoundAt id)
    (hid : m.id = ⟨id, t.methods.length⟩) :
    SoundAt { t with methods := t.methods ++ [m] } id where
  id_eq := ht.id_eq
  field_id := ht.field_id
  method_id := forall_getElem?_concat ht.method_id hid
  names_nodup := ht.names_nodup
  identifiers := ht.identifiers

private theorem modifyField {f : FieldDef → FieldDef} (ht : t.SoundAt id) (k : Nat)
    (hid : ∀ g, (f g).id = g.id) (hname : ∀ g, (f g).name = g.name) :
    SoundAt { t with fields := t.fields.modify k f } id where
  id_eq := ht.id_eq
  field_id := forall_getElem?_modify ht.field_id fun g _ hg => (hid g).trans hg
  method_id := ht.method_id
  names_nodup := by
    rw [map_modify_of_eq hname]
    exact ht.names_nodup
  identifiers := by
    intro g hg
    have hmem : g.name ∈ (t.fields.modify k f).map FieldDef.name := List.mem_map_of_mem hg
    rw [map_modify_of_eq hname] at hmem
    obtain ⟨g', hg', heq⟩ := List.mem_map.mp hmem
    exact heq ▸ ht.identifiers g' hg'

/-- Methods of a type differ in their identities. -/
theorem eq_of_method_id {m n : MethodDef} (ht : t.SoundAt id) (hm : m ∈ t.methods)
    (hn : n ∈ t.methods) (h : m.id = n.id) : m = n := by
  obtain ⟨i, hi⟩ := List.mem_iff_getElem?.mp hm
  obtain ⟨j, hj⟩ := List.mem_iff_getElem?.mp hn
  rw [ht.method_id i m hi, ht.method_id j n hj] at h
  obtain rfl : i = j := congrArg MethodId.slot h
  exact Option.some.inj (hi.symm.trans hj)

end TypeDef.SoundAt

namespace Schema

/-- Schemas that the builder makes, step by step. -/
inductive Buildable : Schema → Prop
  | empty : Buildable {}
  | rootType {s s' : Schema} {package name : String} {id : TypeId} (hb : Buildable s)
      (hs : s.addRootType package name = .ok (s', id)) : Buildable s'
  | nestedType {s s' : Schema} {parent id : TypeId} {name : String} (hb : Buildable s)
      (hs : s.addNestedType parent name = .ok (s', id)) : Buildable s'
  | field {s s' : Schema} {owner : TypeId} {name : String} {type : ValueType} {id : FieldId}
      (hb : Buildable s) (hs : s.addField owner name type = .ok (s', id)) : Buildable s'
  | require {s s' : Schema} {id : FieldId} {d : Declaration} (hb : Buildable s)
      (hs : s.require id d = .ok s') : Buildable s'
  | method {s s' : Schema} {owner : TypeId} {name : String} {signature : Signature}
      {id : MethodId} (hb : Buildable s)
      (hs : s.addMethod owner name signature = .ok (s', id)) : Buildable s'
  | handlerType {s s' : Schema} {owner : TypeId} (hb : Buildable s)
      (hs : s.markHandlerType owner = .ok s') : Buildable s'
  | handler {s s' : Schema} {owner : TypeId} {name : String} {signature : Signature}
      {spec : HandlerSpec} {id : MethodId} (hb : Buildable s)
      (hs : s.addHandler owner name signature spec = .ok (s', id)) : Buildable s'

/-- Each type stands at the place of its identity, and no two have one qualified name. -/
structure Sound (s : Schema) : Prop where
  type_sound : ∀ (i : Nat) (t : TypeDef), s.types[i]? = some t → t.SoundAt ⟨i⟩
  names_nodup : (s.types.map TypeDef.qualifiedName).Nodup

variable {s s' : Schema} {t : TypeDef} {owner : TypeId} {name : String}

theorem sound_empty : Sound {} where
  type_sound i t h := by simp at h
  names_nodup := .nil

private theorem Sound.insertType {package qualified : String} {enclosing : Option TypeId}
    (hs : s.Sound) (h : s.insertType package name enclosing qualified = .ok s') : s'.Sound := by
  obtain ⟨-, hfresh, rfl⟩ := insertType_eq_ok h
  refine ⟨forall_getElem?_concat hs.type_sound ⟨rfl, by simp, by simp, .nil, by simp⟩,
    nodup_map_concat hs.names_nodup fun hmem => ?_⟩
  obtain ⟨t, ht, heq⟩ := List.mem_map.mp hmem
  have hfound : (s.lookup? qualified).isSome = true := by
    rw [lookup?, Option.isSome_map, List.find?_isSome]
    exact ⟨t, ht, beq_iff_eq.mpr heq⟩
  cases hfresh.symm.trans hfound

private theorem Sound.modifyType {f : TypeDef → TypeDef} (hs : s.Sound)
    (hf : ∀ t, s.type? owner = some t → t.SoundAt owner → (f t).SoundAt owner)
    (hn : ∀ t, (f t).qualifiedName = t.qualifiedName) : (s.modifyType owner f).Sound where
  type_sound := forall_getElem?_modify hs.type_sound hf
  names_nodup := by
    rw [Schema.modifyType, map_modify_of_eq hn]
    exact hs.names_nodup

private theorem Sound.addNestedType {id : TypeId} (hs : s.Sound)
    (h : s.addNestedType owner name = .ok (s', id)) : s'.Sound := by
  obtain ⟨p, s₁, -, h₁, rfl⟩ := addNestedType_eq_ok h
  exact (hs.insertType h₁).modifyType (fun _ _ ht => ⟨ht.1, ht.2, ht.3, ht.4, ht.5⟩)
    (fun _ => rfl)

private theorem Sound.addField {type : ValueType} {id : FieldId} (hs : s.Sound)
    (h : s.addField owner name type = .ok (s', id)) : s'.Sound := by
  obtain ⟨t, ht, hname, hfresh, rfl⟩ := addField_eq_ok h
  refine hs.modifyType (fun t' ht' hsound => ?_) (fun _ => rfl)
  obtain rfl : t = t' := Option.some.inj (ht.symm.trans ht')
  exact hsound.addField rfl hname (by simp [hfresh])

private theorem Sound.require {id : FieldId} {d : Declaration} (hs : s.Sound)
    (h : s.require id d = .ok s') : s'.Sound := by
  rw [require_eq_ok h]
  exact hs.modifyType (fun _ _ ht => ht.modifyField _ (fun _ => rfl) (fun _ => rfl))
    (fun _ => rfl)

private theorem Sound.pushMethod {signature : Signature} {handler : Option HandlerSpec}
    {id : MethodId} (hs : s.Sound)
    (h : s.pushMethod owner name signature handler = .ok (s', id)) : s'.Sound := by
  obtain ⟨t, ht, -, rfl⟩ := pushMethod_eq_ok h
  refine hs.modifyType (fun t' ht' hsound => ?_) (fun _ => rfl)
  obtain rfl : t = t' := Option.some.inj (ht.symm.trans ht')
  exact hsound.addMethod rfl

private theorem Sound.withHandlerType (hs : s.Sound) (owner : TypeId) :
    (s.withHandlerType owner).Sound where
  type_sound := by
    rw [types_withHandlerType]
    exact hs.type_sound
  names_nodup := by
    rw [types_withHandlerType]
    exact hs.names_nodup

/-- The builder keeps every type and member at its place. -/
theorem Buildable.sound (hb : s.Buildable) : s.Sound := by
  induction hb with
  | empty => exact sound_empty
  | rootType _ hs ih => exact ih.insertType (addRootType_eq_ok hs).2
  | nestedType _ hs ih => exact ih.addNestedType hs
  | field _ hs ih => exact ih.addField hs
  | require _ hs ih => exact ih.require hs
  | method _ hs ih => exact ih.pushMethod hs
  | handlerType _ hs ih =>
    obtain ⟨t, -, rfl⟩ := markHandlerType_eq_ok hs
    exact ih.withHandlerType _
  | handler _ hs ih =>
    obtain ⟨s₁, h₁, rfl⟩ := addHandler_eq_ok hs
    exact (ih.pushMethod h₁).withHandlerType _

theorem Sound.type?_sound (hs : s.Sound) (ht : s.type? owner = some t) : t.SoundAt owner :=
  hs.type_sound owner.index t ht

theorem Sound.id_of_field? {f : FieldId} {d : FieldDef} (hs : s.Sound) (hd : s.field? f = some d) :
    d.id = f := by
  obtain ⟨t, ht, hslot⟩ := Option.bind_eq_some_iff.mp hd
  exact (hs.type?_sound ht).field_id f.slot d hslot

theorem Sound.id_of_method? {id : MethodId} {m : MethodDef} (hs : s.Sound)
    (hm : s.method? id = some m) : m.id = id := by
  obtain ⟨t, ht, hslot⟩ := Option.bind_eq_some_iff.mp hm
  exact (hs.type?_sound ht).method_id id.slot m hslot

/-- A handler stands at its identity, in a handler type. -/
theorem Sound.method?_of_mem_handlerMethods {m : MethodDef} (hs : s.Sound)
    (hm : m ∈ s.handlerMethods) : s.method? m.id = some m ∧ m.id.owner ∈ s.handlerTypes := by
  obtain ⟨t, ht, hmem⟩ := List.mem_flatMap.mp hm
  obtain ⟨owner, howner, ht⟩ := List.mem_filterMap.mp ht
  obtain ⟨j, hj⟩ := List.mem_iff_getElem?.mp (List.mem_filter.mp hmem).1
  have hid := (hs.type?_sound ht).method_id j m hj
  rw [hid]
  exact ⟨Option.bind_eq_some_iff.mpr ⟨t, ht, hj⟩, howner⟩

theorem eq_of_getElem?_map {α β : Type} {as : List α} {g : α → β} {i j : Nat} {a b : α}
    (hn : (as.map g).Nodup) (ha : as[i]? = some a) (hb : as[j]? = some b) (hg : g a = g b) :
    i = j := by
  have hi := congrArg (Option.map g) ha
  have hj := congrArg (Option.map g) hb
  rw [← List.getElem?_map, Option.map_some] at hi hj
  exact (List.getElem?_inj (List.getElem?_eq_some_iff.mp hi).1 hn).mp (hi.trans (hg ▸ hj.symm))

private theorem append_cons_inj {α : Type} {a : α} {l₁ l₂ r₁ r₂ : List α} (h₁ : a ∉ r₁)
    (h₂ : a ∉ r₂) (h : l₁ ++ a :: r₁ = l₂ ++ a :: r₂) : l₁ = l₂ ∧ r₁ = r₂ := by
  rcases List.append_eq_append_iff.mp h with ⟨c, rfl, hc⟩ | ⟨c, rfl, hc⟩
  · cases c with
    | nil => simpa using hc
    | cons b c => simp_all
  · cases c with
    | nil => simpa [eq_comm] using hc
    | cons b c => simp_all

theorem hash_notMem {cs : List Char} (h : isIdentifier cs) : '#' ∉ cs := by
  cases cs with
  | nil => exact List.not_mem_nil
  | cons c cs =>
    have hstart : isIdentifierStart '#' = false := by decide +kernel
    have hpart : isIdentifierPart '#' = false := by decide +kernel
    obtain ⟨hc, hcs⟩ := Bool.and_eq_true_iff.mp h
    rintro (_ | ⟨_, hmem⟩)
    · rw [hstart] at hc
      cases hc
    · have := List.all_eq_true.mp hcs _ hmem
      rw [hpart] at this
      cases this

theorem memberKey_inj {o₁ o₂ : TypeId} (n₁ n₂ : Option String)
    (h₁ : '#' ∉ (n₁.getD "?").toList) (h₂ : '#' ∉ (n₂.getD "?").toList)
    (h : s.memberKey o₁ n₁ = s.memberKey o₂ n₂) :
    s.typeName o₁ = s.typeName o₂ ∧ n₁.getD "?" = n₂.getD "?" := by
  have hlist := congrArg String.toList h
  simp only [memberKey, String.toList_append, List.append_assoc] at hlist
  obtain ⟨hl, hr⟩ := append_cons_inj h₁ h₂ hlist
  exact ⟨String.toList_inj.mp hl, String.toList_inj.mp hr⟩

/-- Types differ in their qualified names. -/
theorem Sound.eq_of_typeName {o₁ o₂ : TypeId} {t₁ t₂ : TypeDef} (hs : s.Sound)
    (h₁ : s.type? o₁ = some t₁) (h₂ : s.type? o₂ = some t₂) (h : s.typeName o₁ = s.typeName o₂) :
    o₁ = o₂ := by
  rw [typeName, typeName, h₁, h₂] at h
  exact congrArg TypeId.mk (eq_of_getElem?_map hs.names_nodup h₁ h₂ h)

/-- No other identity has the key of a field of the schema. -/
theorem Sound.fieldKey_inj {f g : FieldId} {d : FieldDef} (hs : s.Sound)
    (hd : s.field? f = some d) (h : s.fieldKey g = s.fieldKey f) : g = f := by
  obtain ⟨t, ht, hslot⟩ := Option.bind_eq_some_iff.mp hd
  have hsound := hs.type?_sound ht
  have hname := hsound.identifiers d (List.mem_of_getElem? hslot)
  have hunnamed : isIdentifier "?".toList = false := by decide +kernel
  rw [fieldKey, fieldKey, hd] at h
  cases hg : s.field? g with
  | none =>
    rw [hg] at h
    obtain ⟨-, heq⟩ := memberKey_inj none (some d.name) (by decide) (hash_notMem hname) h
    rw [← show "?" = d.name from heq, hunnamed] at hname
    cases hname
  | some d' =>
    obtain ⟨t', ht', hslot'⟩ := Option.bind_eq_some_iff.mp hg
    have hname' := (hs.type?_sound ht').identifiers d' (List.mem_of_getElem? hslot')
    rw [hg] at h
    obtain ⟨htype, hfield⟩ := memberKey_inj (some d'.name) (some d.name)
      (hash_notMem hname') (hash_notMem hname) h
    have howner := hs.eq_of_typeName ht' ht htype
    obtain ⟨o, j⟩ := f
    obtain ⟨o', j'⟩ := g
    obtain rfl : o' = o := howner
    obtain rfl : t' = t := Option.some.inj (ht'.symm.trans ht)
    obtain rfl : j' = j := eq_of_getElem?_map hsound.names_nodup hslot' hslot hfield
    rfl

end Schema
end FieldGate
