import FieldGate.Proofs.Noted
import FieldGate.Schema.Builder

/-! What each step of the builder does to a schema when it is accepted, and what it has checked
before. -/
namespace FieldGate.Schema

variable {s s' : Schema} {owner id : TypeId} {name package : String}

theorem isIdentifier_of_check (h : checkIdentifier name = .ok ()) : isIdentifier name.toList := by
  unfold checkIdentifier at h
  split at h
  · assumption
  · cases h

theorem check_of_isIdentifier (h : isIdentifier name.toList = true) :
    checkIdentifier name = .ok () := by
  rw [checkIdentifier, if_pos h]

def withType (s : Schema) (t : TypeDef) : Schema := { s with types := s.types ++ [t] }

/-- A type is put at the end without members. Its name is an identifier, and its qualified name is
new. -/
theorem insertType_eq_ok {qualified : String} {enclosing : Option TypeId}
    (h : s.insertType package name enclosing qualified = .ok s') :
    isIdentifier name.toList = true ∧ (s.lookup? qualified).isSome = false ∧
      s' = s.withType { id := s.nextType, package, simpleName := name, enclosing,
                        qualifiedName := qualified } := by
  unfold insertType at h
  split at h
  · cases h
  · rename_i hname
    split at h
    · cases h
    · rename_i hfresh
      exact ⟨isIdentifier_of_check hname, Bool.not_eq_true _ ▸ hfresh, (Except.ok.inj h).symm⟩

def rootName (package name : String) : String :=
  if package.isEmpty then name else package ++ "." ++ name

theorem addRootType_eq_ok (h : s.addRootType package name = .ok (s', id)) :
    (package.isEmpty = false → checkSegments (Text.splitOn '.' package.toList) = .ok ()) ∧
      s.insertType package name none (rootName package name) = .ok s' := by
  unfold addRootType at h
  dsimp only at h
  split at h
  · cases h
  · rename_i hcheck
    obtain ⟨s₁, h₁, heq⟩ := map_eq_ok_iff.mp h
    cases heq
    refine ⟨?_, h₁⟩
    intro hpackage
    rw [if_neg (by simp [hpackage])] at hcheck
    exact hcheck

/-- A nested type is put at the end and listed by the type around it. -/
theorem addNestedType_eq_ok (h : s.addNestedType owner name = .ok (s', id)) :
    ∃ p s₁, s.type? owner = some p ∧
      s.insertType p.package name (some owner) (p.qualifiedName ++ "." ++ name) = .ok s₁ ∧
      s' = s₁.modifyType owner fun p => { p with nested := p.nested ++ [s.nextType] } := by
  unfold addNestedType at h
  split at h
  · cases h
  · rename_i p hp
    split at h
    · cases h
    · rename_i s₁ h₁
      cases h
      exact ⟨p, s₁, hp, h₁, rfl⟩

/-- A field is put at the end of its type. Its name is an identifier, and new there. -/
theorem addField_eq_ok {type : ValueType} {f : FieldId}
    (h : s.addField owner name type = .ok (s', f)) :
    ∃ t, s.type? owner = some t ∧ isIdentifier name.toList = true ∧
      (t.fieldNamed? name).isSome = false ∧
      s' = s.modifyType owner fun u =>
        { u with fields := u.fields ++ [{ id := ⟨owner, t.fields.length⟩, name, type }] } := by
  unfold addField at h
  split at h
  · cases h
  · cases h
  · rename_i t hname ht
    split at h
    · cases h
    · rename_i hfresh
      cases h
      exact ⟨t, ht, isIdentifier_of_check hname, Bool.not_eq_true _ ▸ hfresh, rfl⟩

/-- A requirement is added to a field that is there. -/
theorem require_eq_ok {f : FieldId} {d : Declaration} (h : s.require f d = .ok s') :
    s' = s.modifyType f.owner fun t =>
      { t with fields := t.fields.modify f.slot fun g =>
          { g with declarations := g.declarations ++ [d] } } := by
  unfold require at h
  split at h
  · cases h
  · exact (Except.ok.inj h).symm

/-- A method is put at the end of its type. Its name is an identifier. -/
theorem pushMethod_eq_ok {signature : Signature} {handler : Option HandlerSpec} {m : MethodId}
    (h : s.pushMethod owner name signature handler = .ok (s', m)) :
    ∃ t, s.type? owner = some t ∧ isIdentifier name.toList = true ∧
      s' = s.modifyType owner fun u =>
        { u with
          methods := u.methods ++
            [{ id := ⟨owner, t.methods.length⟩, name, signature, handler }] } := by
  unfold pushMethod at h
  split at h
  · cases h
  · cases h
  · rename_i t hname ht
    cases h
    exact ⟨t, ht, isIdentifier_of_check hname, rfl⟩

theorem markHandlerType_eq_ok (h : s.markHandlerType owner = .ok s') :
    ∃ t, s.type? owner = some t ∧ s' = s.withHandlerType owner := by
  unfold markHandlerType at h
  split at h
  · cases h
  · rename_i t ht
    exact ⟨t, ht, (Except.ok.inj h).symm⟩

theorem addHandler_eq_ok {signature : Signature} {spec : HandlerSpec} {m : MethodId}
    (h : s.addHandler owner name signature spec = .ok (s', m)) :
    ∃ s₁, s.pushMethod owner name signature (some spec) = .ok (s₁, m) ∧
      s' = s₁.withHandlerType owner := by
  obtain ⟨⟨s₁, id₁⟩, h₁, heq⟩ := map_eq_ok_iff.mp h
  cases heq
  exact ⟨s₁, h₁, rfl⟩

theorem types_withHandlerType (s : Schema) (owner : TypeId) :
    (s.withHandlerType owner).types = s.types := by
  unfold withHandlerType
  split <;> rfl

end FieldGate.Schema
