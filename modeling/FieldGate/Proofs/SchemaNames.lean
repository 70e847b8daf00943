import FieldGate.Proofs.SchemaIdentity
import FieldGate.Proofs.Texts
import FieldGate.Reference
import Mathlib.Logic.Relation

/-! Names in a schema made by the builder: qualified names are made of identifiers, each names one
type, and a type stands after the one it is nested in. -/
namespace FieldGate

/-- The segments of the qualified name and the names of the methods are identifiers, and the type
comes after the one around it. -/
structure TypeDef.NamedAt (t : TypeDef) (id : TypeId) : Prop where
  segments : ∀ segment ∈ Text.splitOn '.' t.qualifiedName.toList, isIdentifier segment = true
  methods : ∀ m ∈ t.methods, isIdentifier m.name.toList = true
  outer : ∀ o, t.enclosing = some o → o.index < id.index

namespace Schema

def Named (s : Schema) : Prop :=
  ∀ (i : Nat) (t : TypeDef), s.types[i]? = some t → t.NamedAt ⟨i⟩

variable {s s' : Schema} {t : TypeDef} {owner base scope : TypeId} {name : String}

private theorem segments_of_isIdentifier {name : String} (h : isIdentifier name.toList = true) :
    ∀ segment ∈ Text.splitOn '.' name.toList, isIdentifier segment = true := by
  have hdot : '.' ∉ name.toList := notMem_of_isIdentifier h (isIdentifierPart_sign '.' (by simp))
  rw [Text.splitOn_of_notMem hdot]
  intro segment hmem
  rw [List.mem_singleton.mp hmem]
  exact h

private theorem segments_append {outer name : String}
    (ho : ∀ segment ∈ Text.splitOn '.' outer.toList, isIdentifier segment = true)
    (hn : isIdentifier name.toList = true) :
    ∀ segment ∈ Text.splitOn '.' (outer ++ "." ++ name).toList, isIdentifier segment = true := by
  have happ : (outer ++ "." ++ name).toList = outer.toList ++ '.' :: name.toList := by
    simp [String.toList_append]
  rw [happ, Text.splitOn_append_cons]
  intro segment hmem
  rcases List.mem_append.mp hmem with hmem | hmem
  · exact ho segment hmem
  · exact segments_of_isIdentifier hn segment hmem

private theorem segments_of_check {segments : List (List Char)}
    (h : checkSegments segments = .ok ()) : ∀ segment ∈ segments, isIdentifier segment = true := by
  induction segments with
  | nil => simp
  | cons segment rest ih =>
    rw [checkSegments] at h
    split at h
    · rename_i hcheck
      have hfirst := isIdentifier_of_check hcheck
      rw [String.toList_ofList] at hfirst
      exact List.forall_mem_cons.mpr ⟨hfirst, ih h⟩
    · cases h

private theorem Named.insertType {package qualified : String} {enclosing : Option TypeId}
    (hs : s.Named) (h : s.insertType package name enclosing qualified = .ok s')
    (hq : isIdentifier name.toList = true →
      ∀ segment ∈ Text.splitOn '.' qualified.toList, isIdentifier segment = true)
    (ho : ∀ o, enclosing = some o → o.index < s.types.length) : s'.Named := by
  obtain ⟨hname, -, rfl⟩ := insertType_eq_ok h
  exact forall_getElem?_concat hs ⟨hq hname, by simp, ho⟩

private theorem Named.modifyType {f : TypeDef → TypeDef} (hs : s.Named)
    (hf : ∀ t, s.type? owner = some t → t.NamedAt owner → (f t).NamedAt owner) :
    (s.modifyType owner f).Named :=
  forall_getElem?_modify hs hf

private theorem Named.addRootType {package : String} {id : TypeId} (hs : s.Named)
    (h : s.addRootType package name = .ok (s', id)) : s'.Named := by
  obtain ⟨hcheck, h₁⟩ := addRootType_eq_ok h
  refine hs.insertType h₁ (fun hname => ?_) (by simp)
  unfold rootName
  split
  · exact segments_of_isIdentifier hname
  · rename_i hpackage
    have hsegments := segments_of_check (hcheck (by simpa using hpackage))
    exact segments_append hsegments hname

private theorem Named.addNestedType {id : TypeId} (hs : s.Named)
    (h : s.addNestedType owner name = .ok (s', id)) : s'.Named := by
  obtain ⟨p, s₁, hp, h₁, rfl⟩ := addNestedType_eq_ok h
  refine Named.modifyType (hs.insertType h₁ ?_ ?_) fun _ _ ht => ⟨ht.1, ht.2, ht.3⟩
  · exact segments_append (hs owner.index p hp).segments
  · rintro o ⟨⟩
    exact (List.getElem?_eq_some_iff.mp hp).1

private theorem Named.pushMethod {signature : Signature} {handler : Option HandlerSpec}
    {id : MethodId} (hs : s.Named)
    (h : s.pushMethod owner name signature handler = .ok (s', id)) : s'.Named := by
  obtain ⟨-, -, hname, rfl⟩ := pushMethod_eq_ok h
  refine hs.modifyType fun t _ ht => ⟨ht.segments, ?_, ht.outer⟩
  intro m hm
  rcases List.mem_append.mp hm with hm | hm
  · exact ht.methods m hm
  · rw [List.mem_singleton.mp hm]
    exact hname

private theorem Named.withHandlerType (hs : s.Named) (owner : TypeId) :
    (s.withHandlerType owner).Named := by
  unfold Named
  rw [types_withHandlerType]
  exact hs

/-- The builder admits identifiers only, and types after those they are nested in. -/
theorem Buildable.named (hb : s.Buildable) : s.Named := by
  induction hb with
  | empty => exact fun i t h => by simp at h
  | rootType _ hs ih => exact ih.addRootType hs
  | nestedType _ hs ih => exact ih.addNestedType hs
  | field _ hs ih =>
    obtain ⟨t, -, -, -, rfl⟩ := addField_eq_ok hs
    exact ih.modifyType fun _ _ ht => ⟨ht.1, ht.2, ht.3⟩
  | require _ hs ih =>
    rw [require_eq_ok hs]
    exact ih.modifyType fun _ _ ht => ⟨ht.1, ht.2, ht.3⟩
  | method _ hs ih => exact ih.pushMethod hs
  | handlerType _ hs ih =>
    obtain ⟨t, -, rfl⟩ := markHandlerType_eq_ok hs
    exact ih.withHandlerType _
  | handler _ hs ih =>
    obtain ⟨s₁, h₁, rfl⟩ := addHandler_eq_ok hs
    exact (ih.pushMethod h₁).withHandlerType _

/-- A qualified name leads to the type that has it. -/
theorem Sound.lookup?_eq_some_iff (hs : s.Sound) {id : TypeId} :
    s.lookup? name = some id ↔ ∃ t, s.type? id = some t ∧ t.qualifiedName = name := by
  rw [lookup?, Option.map_eq_some_iff]
  constructor
  · rintro ⟨t, ht, rfl⟩
    obtain ⟨i, hi⟩ := List.mem_iff_getElem?.mp (List.mem_of_find?_eq_some ht)
    rw [(hs.type_sound i t hi).id_eq]
    have hfound := List.find?_some ht
    exact ⟨t, hi, beq_iff_eq.mp hfound⟩
  · rintro ⟨t, ht, rfl⟩
    have hsome : (s.types.find? fun t' => t'.qualifiedName == t.qualifiedName).isSome :=
      List.find?_isSome.mpr ⟨t, List.mem_of_getElem? ht, by simp⟩
    obtain ⟨t', ht'⟩ := Option.isSome_iff_exists.mp hsome
    obtain ⟨j, hj⟩ := List.mem_iff_getElem?.mp (List.mem_of_find?_eq_some ht')
    have hfound := List.find?_some ht'
    have hij : j = id.index := eq_of_getElem?_map hs.names_nodup hj ht (beq_iff_eq.mp hfound)
    refine ⟨t', ht', ?_⟩
    rw [(hs.type_sound j t' hj).id_eq, hij]

def Around (s : Schema) (base scope : TypeId) : Prop :=
  Relation.ReflTransGen (fun inner outer => s.enclosing? inner = some outer) base scope

private theorem mem_chainOfLength_iff (hs : s.Named) {n : Nat} (hn : base.index ≤ n) :
    scope ∈ s.chainOfLength n base ↔ s.Around base scope := by
  induction n generalizing base with
  | zero =>
    -- the first type of a schema is not nested
    have hnone : s.enclosing? base = none := by
      cases ht : s.type? base with
      | none => simp [enclosing?, ht]
      | some t =>
        cases ho : t.enclosing with
        | none => simp [enclosing?, ht, ho]
        | some o =>
          have := (hs base.index t ht).outer o ho
          simp only at this
          omega
    rw [Around, Relation.ReflTransGen.cases_head_iff, chainOfLength, List.mem_singleton, hnone]
    simp [eq_comm]
  | succ n ih =>
    rw [Around, Relation.ReflTransGen.cases_head_iff, chainOfLength, List.mem_cons,
      eq_comm (a := scope)]
    refine or_congr_right ?_
    cases ho : s.enclosing? base with
    | none => simp
    | some o =>
      obtain ⟨t, ht, hout⟩ := Option.bind_eq_some_iff.mp ho
      have hlt : o.index < base.index := (hs base.index t ht).outer o hout
      simp only [Option.some.injEq, exists_eq_left']
      exact ih (by omega)

/-- The chain of a type reaches all types around it. -/
theorem mem_enclosingChain_iff (hs : s.Named) :
    scope ∈ s.enclosingChain base ↔ s.Around base scope :=
  mem_chainOfLength_iff hs (Nat.le_refl _)

def Declared (s : Schema) (name : String) : Prop := ∃ t ∈ s.types, t.qualifiedName = name

theorem lookup?_eq_none_iff : s.lookup? name = none ↔ ¬ s.Declared name := by
  simp [lookup?, Declared]

/-- A qualified name is shadowed from a type if a declared type has it after the name of the type,
of one around it or of the package. -/
def Shadowed (s : Schema) (base : TypeId) (name : String) : Prop :=
  (∃ scope, s.Around base scope ∧ s.Declared (s.typeName scope ++ "." ++ name)) ∨
    ∃ t, s.type? base = some t ∧ t.package ≠ "" ∧ s.Declared (t.package ++ "." ++ name)

/-- A path is not found around a type where no type there has one declared inside it by that path.
-/
theorem lookupInChain_eq_none_iff (hs : s.Named) :
    s.lookupInChain name (s.enclosingChain base) = none ↔
      ∀ scope, s.Around base scope → ¬ s.Declared (s.typeName scope ++ "." ++ name) := by
  simp only [lookupInChain, List.findSome?_eq_none_iff, mem_enclosingChain_iff hs,
    lookup?_eq_none_iff]

/-- A path is not found in a package where no type of the package has that name. -/
theorem lookupInPackage_eq_none_iff :
    s.lookupInPackage base name = none ↔
      ∀ t, s.type? base = some t → t.package ≠ "" → ¬ s.Declared (t.package ++ "." ++ name) := by
  unfold lookupInPackage
  cases s.type? base with
  | none => simp
  | some t =>
    by_cases hp : t.package = ""
    · simp [hp]
    · simp [hp, lookup?_eq_none_iff]

variable {r : RawReference}

/-- A name is not shadowed where neither the types around nor the package come up with another. -/
theorem not_shadowed_iff (hs : s.Named) :
    ¬ s.Shadowed base name ↔
      s.lookupInChain name (s.enclosingChain base) = none ∧ s.lookupInPackage base name = none := by
  rw [lookupInChain_eq_none_iff hs, lookupInPackage_eq_none_iff, Shadowed]
  simp only [not_or, not_exists, not_and]

/-- A path that nothing shadows is a qualified name. -/
theorem resolveType_of_not_shadowed (hs : s.Named) (hr : r.path ≠ [])
    (h : ¬ s.Shadowed base r.joinedPath) : s.resolveType base r = s.lookup? r.joinedPath := by
  obtain ⟨hchain, hpackage⟩ := (not_shadowed_iff hs).mp h
  rw [resolveType, if_neg (by simpa using hr), hchain, hpackage, Option.none_or, Option.none_or]

/-- A path that is shadowed leads to a type of a longer name. -/
theorem resolveType_of_shadowed (hs : s.Named) (hr : r.path ≠ [])
    (h : s.Shadowed base r.joinedPath) :
    ∃ outer, s.resolveType base r = s.lookup? (outer ++ "." ++ r.joinedPath) := by
  rw [resolveType, if_neg (by simpa using hr)]
  cases hc : s.lookupInChain r.joinedPath (s.enclosingChain base) with
  | some id =>
    obtain ⟨scope, -, hscope⟩ := List.exists_of_findSome?_eq_some hc
    exact ⟨s.typeName scope, by rw [hscope, Option.some_or]⟩
  | none =>
    obtain ⟨t, ht, hne, hd⟩ := h.resolve_left fun ⟨scope, ha, hd⟩ =>
      (lookupInChain_eq_none_iff hs).mp hc scope ha hd
    refine ⟨t.package, ?_⟩
    rw [Option.none_or, lookupInPackage, ht]
    dsimp only
    rw [if_neg (by simpa using hne)]
    cases hl : s.lookup? (t.package ++ "." ++ r.joinedPath) with
    | some id => rfl
    | none => exact absurd hd (lookup?_eq_none_iff.mp hl)

end Schema
end FieldGate
