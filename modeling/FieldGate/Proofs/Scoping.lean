import FieldGate.Proofs.Canonical
import FieldGate.Proofs.Nesting
import FieldGate.Proofs.Spelling

/-! The scopes of paths. A path is looked for in the innermost type first; where that type has one
of the path's name inside it, the path means that type, whatever members it may lack, and where it
has none, the path means what it means one type further out. -/
namespace FieldGate

namespace Spelling

variable {p : Spelling} {trim : Bool}

def unscoped (p : Spelling) : List Char := '#' :: (p.member ++ p.tail)

/-- Without its path, a reference is read as the same member, parameter types and index. -/
theorem scan_unscoped (trim : Bool) (p : Spelling) :
    RawReference.scan trim p.unscoped = .ok { p.reference with path := [] } := by
  apply RawReference.scan_of_scanFrom
  rw [RawReference.scanFrom_eq_ok_iff_written]
  refine ⟨{ p with path := [], path_isIdentifier := by simp }, .inr ?_, rfl⟩
  simp [marked, RawReference.headText, unscoped, tail]

end Spelling

namespace Schema

variable {s : Schema} {t u : TypeDef} {base outer id : TypeId} {r raw : RawReference}
  {trim : Bool} {text : String} {path : String}

/-- The chain of a nested type is searched from the type outwards. -/
theorem Nested.lookupInChain_eq (hs : s.Nested) (ht : s.type? base = some t)
    (ho : t.enclosing = some outer) :
    s.lookupInChain path (s.enclosingChain base) =
      (s.lookup? (t.qualifiedName ++ "." ++ path)).or
        (s.lookupInChain path (s.enclosingChain outer)) := by
  have henclosing : s.enclosing? base = some outer := by rw [enclosing?, ht, Option.bind_some, ho]
  have hname : s.typeName base = t.qualifiedName := by rw [typeName, ht]
  rw [hs.enclosingChain_eq_cons henclosing, lookupInChain, List.findSome?_cons, hname]
  cases s.lookup? (t.qualifiedName ++ "." ++ path) <;> rfl

/-- A nested type is in the package of the type around it. -/
theorem Nested.lookupInPackage_eq (hs : s.Nested) (ht : s.type? base = some t)
    (ho : t.enclosing = some outer) :
    s.lookupInPackage base path = s.lookupInPackage outer path := by
  obtain ⟨-, p, hp, hpackage, -⟩ := hs.enclosed base t outer ht ho
  rw [lookupInPackage, lookupInPackage, ht, hp]
  simp only [hpackage]

/-- A path that names nothing inside a nested type means what it means from the type around it. -/
theorem Nested.resolveType_outwards (hs : s.Nested) (ht : s.type? base = some t)
    (ho : t.enclosing = some outer) (hr : r.path ≠ [])
    (h : ¬ s.Declared (t.qualifiedName ++ "." ++ r.joinedPath)) :
    s.resolveType base r = s.resolveType outer r := by
  rw [resolveType, resolveType, if_neg (by simpa using hr), if_neg (by simpa using hr),
    hs.lookupInChain_eq ht ho, lookup?_eq_none_iff.mpr h, Option.none_or,
    hs.lookupInPackage_eq ht ho]

/-- A path that names a type inside a nested one means that type. -/
theorem Nested.resolveType_inside (hs : s.Nested) (hsound : s.Sound) (ht : s.type? base = some t)
    (ho : t.enclosing = some outer) (hr : r.path ≠ []) (hu : s.type? id = some u)
    (h : u.qualifiedName = t.qualifiedName ++ "." ++ r.joinedPath) :
    s.resolveType base r = some id := by
  have hsome := hsound.lookup?_eq_some_iff.mpr ⟨u, hu, h⟩
  rw [resolveType, if_neg (by simpa using hr), hs.lookupInChain_eq ht ho, hsome, Option.some_or,
    Option.some_or]

/-- Once its type is found, a reference means what its member means there. -/
theorem resolve_of_resolveType (h : s.resolveType base r = some id) (hu : s.type? id = some u) :
    s.resolve base r = resolveMember u r := by
  rw [resolve, h, Option.bind_some, hu]

/-- What is read of a text that scans is what its parts resolve to, or their defect. -/
theorem parse_of_scan (h : RawReference.scan trim text.toList = .ok raw) :
    (s.parse trim base text).mapError ReferenceError.defect =
      (s.resolve base raw).map (⟨·, text⟩) := by
  rw [parse, h]
  dsimp only
  cases s.resolve base raw <;> rfl

def reading (s : Schema) (trim : Bool) (base : TypeId) (text : String) :
    Except ReferenceDefect Target :=
  ((s.parse trim base text).mapError ReferenceError.defect).map Reference.target

theorem reading_of_scan (h : RawReference.scan trim text.toList = .ok raw) :
    s.reading trim base text = s.resolve base raw := by
  rw [reading, parse_of_scan h]
  cases s.resolve base raw <;> rfl

/-- A reference without a path is to a member of the type itself. -/
theorem resolve_of_path_eq_nil (hs : s.Sound) (hu : s.type? id = some u) (hr : r.path = []) :
    s.resolve id r = resolveMember u r := by
  refine resolve_of_resolveType ?_ hu
  rw [resolveType, if_pos (by simp [hr]), hu, Option.map_some, (hs.type?_sound hu).id_eq]

/-- The path of a reference only matters for the type: in that type, the reference is read without
the path as with it. -/
theorem reading_unscoped (hs : s.Sound) (hu : s.type? id = some u) (p : Spelling) :
    s.reading trim id (String.ofList p.unscoped) = resolveMember u p.reference := by
  have hscan := p.scan_unscoped trim
  rw [← String.toList_ofList (l := p.unscoped)] at hscan
  rw [reading_of_scan hscan, resolve_of_path_eq_nil hs hu rfl]
  rfl

/-- Paths have lexical scope: from a nested type, a path that names nothing inside it is read as
from the type around it, and a path that names a type inside it is read in that type and no
other. -/
theorem parse_lexically (hb : s.Buildable) (ht : s.type? base = some t)
    (ho : t.enclosing = some outer) (hraw : RawReference.scan trim text.toList = .ok raw)
    (hpath : raw.path ≠ []) :
    (¬ s.Declared (t.qualifiedName ++ "." ++ raw.joinedPath) →
      (s.parse trim base text).mapError ReferenceError.defect =
        (s.parse trim outer text).mapError ReferenceError.defect) ∧
    ∀ id u, s.type? id = some u → u.qualifiedName = t.qualifiedName ++ "." ++ raw.joinedPath →
      (∀ r, s.parse trim base text = .ok r → u.Has r.target) ∧
      (∃ p, Spelling.Writes (RawReference.bodyOf trim text.toList) p) ∧
      ∀ p, Spelling.Writes (RawReference.bodyOf trim text.toList) p →
        s.reading trim base text = s.reading trim id (String.ofList p.unscoped) := by
  constructor
  · intro h
    have houtwards : s.resolve base raw = s.resolve outer raw := by
      rw [resolve, resolve, hb.nested.resolveType_outwards ht ho hpath h]
    rw [parse_of_scan hraw, parse_of_scan hraw, houtwards]
  · intro id u hu hname
    have hresolve : s.resolve base raw = resolveMember u raw :=
      resolve_of_resolveType (hb.nested.resolveType_inside hb.sound ht ho hpath hu hname) hu
    refine ⟨?_, ?_, ?_⟩
    · intro r hr
      obtain ⟨raw', id', u', hraw', hid', hu', hmember, -⟩ := parse_eq_ok_iff.mp hr
      cases hraw.symm.trans hraw'
      rw [resolve_of_resolveType hid' hu'] at hresolve
      exact has_of_resolveMember (hresolve.symm.trans hmember)
    · obtain ⟨p, hp, -⟩ := RawReference.scan_eq_ok_iff_written.mp hraw
      exact ⟨p, hp⟩
    · intro p hp
      have hscan : RawReference.scan trim text.toList = .ok p.reference :=
        RawReference.scan_eq_ok_iff_written.mpr ⟨p, hp, rfl⟩
      cases hraw.symm.trans hscan
      rw [reading_of_scan hraw, hresolve, reading_unscoped hb.sound hu]

/-- A house with a lamp and a room, which has a lamp of its own. Only the lamp of the house can be
dimmed. -/
def lampInRoom : Schema where
  types :=
    [{ id := ⟨0⟩, package := "", simpleName := "House", qualifiedName := "House"
       nested := [⟨1⟩, ⟨2⟩] },
     { id := ⟨1⟩, package := "", simpleName := "Lamp", enclosing := some ⟨0⟩
       qualifiedName := "House.Lamp"
       fields := [{ id := ⟨⟨1⟩, 0⟩, name := "power", type := .bool }]
       methods :=
         [{ id := ⟨⟨1⟩, 0⟩, name := "dim", signature := .predicate [.any] }] },
     { id := ⟨2⟩, package := "", simpleName := "Room", enclosing := some ⟨0⟩
       qualifiedName := "House.Room", nested := [⟨3⟩] },
     { id := ⟨3⟩, package := "", simpleName := "Lamp", enclosing := some ⟨2⟩
       qualifiedName := "House.Room.Lamp"
       fields := [{ id := ⟨⟨3⟩, 0⟩, name := "power", type := .bool }] }]

theorem buildable_lampInRoom : lampInRoom.Buildable := by
  have h₁ := Buildable.empty.rootType
    (show addRootType {} "" "House" = .ok (_, _) from rfl)
  have h₂ := h₁.nestedType (show addNestedType _ ⟨0⟩ "Lamp" = .ok (_, _) from rfl)
  have h₃ := h₂.nestedType (show addNestedType _ ⟨0⟩ "Room" = .ok (_, _) from rfl)
  have h₄ := h₃.nestedType (show addNestedType _ ⟨2⟩ "Lamp" = .ok (_, _) from rfl)
  have h₅ := h₄.field (show addField _ ⟨1⟩ "power" .bool = .ok (_, _) from rfl)
  have h₆ := h₅.method (show addMethod _ ⟨1⟩ "dim" (.predicate [.any]) = .ok (_, _) from rfl)
  exact h₆.field (show addField _ ⟨3⟩ "power" .bool = .ok (_, _) from rfl)

def lampDim : Spelling where
  path := ["Lamp".toList]
  member := "dim".toList
  path_isIdentifier := by decide +kernel
  member_isIdentifier := by decide +kernel
  parameters_isList := by simp
  index_isIndex := by simp

/-- In the room its lamp hides that of the house, which could be dimmed; in the lamp, the lamp of
the room is still found. -/
theorem lamp_of_room_hides_other :
    lampInRoom.reading true ⟨2⟩ "Lamp.dim" = lampInRoom.reading true ⟨3⟩ "#dim" ∧
      (lampInRoom.reading true ⟨2⟩ "Lamp.dim").isOk = false ∧
      (lampInRoom.parse true ⟨3⟩ "Lamp.power").mapError ReferenceError.defect =
        (lampInRoom.parse true ⟨2⟩ "Lamp.power").mapError ReferenceError.defect := by
  have hroom : lampInRoom.type? ⟨2⟩ = some _ := rfl
  have hlamp : lampInRoom.type? ⟨3⟩ = some _ := rfl
  have hdim : RawReference.scan true "Lamp.dim".toList = .ok ⟨["Lamp"], "dim", none, none⟩ := rfl
  have hpower : RawReference.scan true "Lamp.power".toList = .ok ⟨["Lamp"], "power", none, none⟩ :=
    rfl
  refine ⟨?_, rfl, ?_⟩
  · exact ((parse_lexically buildable_lampInRoom hroom rfl hdim (by simp)).2 ⟨3⟩ _ rfl rfl).2.2
      lampDim (.inl rfl)
  · apply (parse_lexically buildable_lampInRoom hlamp rfl hpower (by simp)).1
    exact lookup?_eq_none_iff.mp rfl

end Schema
end FieldGate
