import FieldGate.Proofs.DeclaredBounds
import FieldGate.Proofs.HandlerTable

/-! When the constant arguments of a handler are known to fit. They are checked with the table where
they are all the arguments of a call, and otherwise not before a site is bound. -/
namespace FieldGate

/-- The constant arguments can begin a call: there are no more of them than positions, and each
entry is accepted by the parameter declared for its position. -/
structure Handler.Begins [PatternEngine] (h : Handler) (typeOf : EntryId → ValueType) : Prop where
  count : h.signature.isVariadic = false → h.constArguments.length ≤ h.signature.params.length
  accepted : ∀ i p b, h.signature.declared? i = some p → h.constArguments[i]? = some b →
    p.accepts (typeOf b.entry) = true

namespace HandlerTable

section Engine

variable [PatternEngine] {c : Context} {t : HandlerTable} {h : Handler}

/-- Constant arguments that are enough for a call are bound with the table. Where those of a handler
can be bound, with the table or at a site, they begin a call, unless one of them is in the position
of a loosened variable. -/
theorem begins_iff_of_bound (ht : (build c).result = .ok t) (hh : h ∈ t.handlers) :
    (h.signature.admits h.constArguments.length = true →
      ∃ g, (h.bind c.typeOf [] []).result = .ok g) ∧
    ∀ site literals g, (h.bind c.typeOf site literals).result = .ok g →
      (h.Begins c.typeOf ↔ ∀ i < h.constArguments.length, ∀ p,
        h.signature.declared? i = some p →
          ¬ h.signature.Loosens ((h.constArguments ++ site).map fun b => c.typeOf b.entry) p) := by
  constructor
  · intro hadmits
    obtain ⟨g, hg⟩ := Option.isSome_iff_exists.mp ((default_of_mem ht hh).1.mpr hadmits)
    exact ⟨g, Handler.bind_of_default hg c.typeOf⟩
  intro site literals g hbind
  obtain ⟨values, hvalues, -⟩ := accepted_of_bind ht hh hbind
  have hpasses := Signature.checkArguments_eq_ok_iff_passes.mp hvalues
  have hcount := hpasses.count
  rw [List.length_map, List.length_append] at hcount
  -- the constant arguments are the first entries of the call
  have hposition {i : Nat} {b : BoundEntry} (hb : h.constArguments[i]? = some b) :
      ((h.constArguments ++ site).map fun b => c.typeOf b.entry)[i]? =
        some (c.typeOf b.entry) := by
    obtain ⟨hi, -⟩ := List.getElem?_eq_some_iff.mp hb
    rw [List.getElem?_map, List.getElem?_append_left hi, hb, Option.map_some]
  constructor
  · intro hbegins i hi p hp
    have hb := List.getElem?_eq_getElem hi
    exact (hpasses.accepts_iff hp (hposition hb)).mp (hbegins.accepted i p _ hp hb)
  · intro hkept
    refine ⟨fun hfixed => ?_, fun i p b hp hb => ?_⟩
    · rw [Signature.admits_iff, hfixed, if_neg Bool.false_ne_true] at hcount
      omega
    · obtain ⟨hi, -⟩ := List.getElem?_eq_some_iff.mp hb
      exact (hpasses.accepts_iff hp (hposition hb)).mpr (hkept i hi p hp)

end Engine

open scoped Pattern.Engine

/-- The handler of a beacon is called with nothing but the power of the beacon, which is bound to it
with the table. -/
theorem beacon_power_begins :
    let c : Context := { schema := .beacon, config := {}, entries := ⟨[(⟨⟨0⟩, 0⟩, [⟨0⟩])]⟩
                         typeOf := fun _ => .bool }
    ∃ t h, (build c).result = .ok t ∧ h ∈ t.handlers ∧
      h.constArguments.map BoundEntry.label = ["power"] ∧ h.Begins c.typeOf := by
  intro c
  refine ⟨_, _, rfl, List.mem_singleton_self _, rfl, ?_⟩
  obtain ⟨hbound, hbegins⟩ := begins_iff_of_bound (c := c) rfl (List.mem_singleton_self _)
  obtain ⟨g, hg⟩ := hbound rfl
  refine (hbegins [] [] g hg).mpr ?_
  rintro i hi p hp ⟨name, rfl, -⟩
  obtain rfl : i = 0 := Nat.lt_one_iff.mp hi
  cases hp

end HandlerTable

/-- A lamp with two handlers that its power does not fit: one wants a number first, the other takes
no arguments. -/
def Schema.misfit : Schema where
  types :=
    [{ id := ⟨0⟩, package := "", simpleName := "Lamp", enclosing := none, qualifiedName := "Lamp"
       fields := [{ id := ⟨⟨0⟩, 0⟩, name := "power", type := .bool }]
       methods :=
         [{ id := ⟨⟨0⟩, 0⟩, name := "dims"
            signature := .predicate [.exact (.number .int32), .exact .bool]
            handler := some ⟨["power"], fun _ => .ok true⟩ },
          { id := ⟨⟨0⟩, 1⟩, name := "blinks", signature := .predicate []
            handler := some ⟨["power"], fun _ => .ok true⟩ }] }]
  handlerTypes := [⟨0⟩]

theorem Schema.buildable_misfit : misfit.Buildable := by
  have h₁ := Buildable.empty.rootType
    (show addRootType {} "" "Lamp" = .ok (_, _) from rfl)
  have h₂ := h₁.field (show addField _ ⟨0⟩ "power" .bool = .ok (_, _) from rfl)
  have h₃ := h₂.handler (show addHandler _ ⟨0⟩ "dims"
    (.predicate [.exact (.number .int32), .exact .bool])
    ⟨["power"], fun _ => .ok true⟩ = .ok (_, _) from rfl)
  exact h₃.handler (show addHandler _ ⟨0⟩ "blinks" (.predicate [])
    ⟨["power"], fun _ => .ok true⟩ = .ok (_, _) from rfl)

namespace HandlerTable

open scoped Pattern.Engine

/-- The table of the lamp is built nevertheless. The power of the lamp is of the wrong type for one
handler and one argument too many for the other. -/
theorem misfit_built :
    let c : Context := { schema := .misfit, config := {}, entries := ⟨[(⟨⟨0⟩, 0⟩, [⟨0⟩])]⟩
                         typeOf := fun _ => .bool }
    Schema.misfit.Buildable ∧ ∃ t, (build c).result = .ok t ∧
      t.handlers.map Handler.key = ["Lamp#dims", "Lamp#blinks"] ∧
      ∀ h ∈ t.handlers, ¬ h.Begins c.typeOf := by
  intro c
  refine ⟨Schema.buildable_misfit, _, rfl, rfl, fun h hh hbegins => ?_⟩
  rcases List.mem_cons.mp hh with rfl | hh
  · cases hbegins.accepted 0 (.exact (.number .int32)) ⟨⟨0⟩, "power"⟩ rfl rfl
  · obtain rfl := List.mem_singleton.mp hh
    cases hbegins.count rfl

end HandlerTable

end FieldGate
