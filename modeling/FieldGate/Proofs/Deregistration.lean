import FieldGate.Pattern.Engine
import FieldGate.Proofs.Building
import FieldGate.Proofs.SchemaIdentity

/-! Deregistering a field. It frees the entries that are registered for the field, and only these:
an entry that was lent to the field stays under it. -/
namespace FieldGate

/-- No entry is under the field: a build names it nowhere, and what it installs are gates of other
fields. -/
def Manager.FreeOf [PatternEngine] (m : Manager) (f : FieldId) : Prop :=
  (∀ e, ¬ m.Governs f e) ∧
  ∀ typeOf report installs, (m.build typeOf).2.result = .ok (report, installs) →
    (∀ r ∈ report.installs, m.schema.fieldKey f ∉ r.sources) ∧
    ∃ table, (HandlerTable.build (m.basis typeOf)).result = .ok table ∧
      ∀ i ∈ installs, ∃ gates, i.gate = .all gates ∧ ∀ gate ∈ gates, ∃ f', f' ≠ f ∧
        m.Governs f' i.entry ∧ Manager.GateOf ⟨m.basis typeOf, table⟩ f' i.action gate

namespace Registration

variable {m : Manager} {s : Schema} {c : Config} {h before after : List Registration} {f : FieldId}
  {e : EntryId}

/-- A field that governs nothing has no part in a build. -/
theorem Tracks.freeOf [PatternEngine] (ht : Tracks s c h m) (hs : s.Buildable)
    (hf : ∀ e, ¬ m.Governs f e) : m.FreeOf f := by
  refine ⟨hf, ?_⟩
  intro typeOf report installs hb
  have hresolve : (m.resolve typeOf).result = .ok (report, installs) := by
    rw [Manager.build, ht.state] at hb
    exact hb
  obtain ⟨table, known, htable, hknown, hall, rfl, rfl⟩ := Manager.resolve_spec hresolve
  refine ⟨?_, table, htable, ?_⟩
  · intro r hr hmem
    obtain ⟨g, hg, rfl⟩ := List.mem_map.mp hr
    obtain ⟨f', hf', hkey⟩ := List.mem_map.mp hmem
    have hgov : m.Governs f' g.entry := ⟨g, (Manager.mem_governing_iff.mp hg).1, rfl, hf'⟩
    -- a source declares a requirement, so it is a field of the schema and its key is its own
    have hdecl := (ht.governs_iff.mp hgov).1
    cases hd : s.field? f' with
    | none => simp [Schema.declarationsOf, hd] at hdecl
    | some d =>
      rw [ht.schema] at hkey
      obtain rfl := hs.sound.fieldKey_inj hd hkey.symm
      exact hf _ hgov
  · intro i hi
    obtain ⟨gates, hgate, hmem⟩ := Manager.gate_of_mem_installs ht.coherent hknown hall hi
    refine ⟨gates, hgate, ?_⟩
    intro gate hg
    obtain ⟨f', hgov, hof⟩ := (hmem gate).mp hg
    refine ⟨f', ?_, hgov, hof⟩
    rintro rfl
    exact hf _ hgov

private theorem holds_after_deregister (hafter : ∀ r ∈ after, r.field = f → r = .deregister f) :
    listed f (before ++ .deregister f :: after) = [] ∧
      (KeptSince (·.Lends f e) (before ++ .deregister f :: after) f e ↔
        KeptSince (·.Lends f e) (before ++ [.deregister f]) f e) := by
  -- no entry is registered for the field any more, and what was lent to it stays
  induction after using List.reverseRecOn with
  | nil => exact ⟨by rw [listed_concat, relist, if_pos rfl], Iff.rfl⟩
  | append_singleton after r ih =>
    obtain ⟨hlisted, hkept⟩ := ih fun r hr => hafter r (List.mem_append_left _ hr)
    have hr := hafter r (List.mem_append_right _ (List.mem_singleton_self r))
    rw [← List.cons_append, ← List.append_assoc, listed_concat, keptSince_concat, hlisted, hkept]
    have hrelist : relist f [] r = [] := by
      cases r with
      | register g es => exact if_neg fun hg => by cases hr hg.symm
      | registerDeclared g es => rfl
      | deregister g => exact ite_self _
    refine ⟨hrelist, ?_⟩
    have hlends : ¬ r.Lends f e := by
      cases r with
      | registerDeclared g es => exact fun hl => by cases hr hl.1
      | register g es => exact id
      | deregister g => exact id
    simp [hlends]

/-- Once a field is deregistered and until it is passed to a call again, it governs the entries that
were lent to it and not registered for it since; it is gone from the manager exactly if there are
none. -/
theorem freeOf_deregistered_iff [PatternEngine] (hs : s.Buildable) (c : Config)
    (before after : List Registration) (f : FieldId)
    (hafter : ∀ r ∈ after, r.field = f → r = .deregister f) :
    ∃ m, run { schema := s, config := c } (before ++ .deregister f :: after) = .ok m ∧
      (∀ e, m.Governs f e ↔
        s.declarationsOf f ≠ [] ∧ KeptSince (·.Lends f e) (before ++ [.deregister f]) f e) ∧
      (m.FreeOf f ↔ s.declarationsOf f = [] ∨
        ∀ e, ¬ KeptSince (·.Lends f e) (before ++ [.deregister f]) f e) := by
  obtain ⟨m, hm, ht⟩ := tracks_run s c (before ++ .deregister f :: after)
  have hgov (e : EntryId) : m.Governs f e ↔
      s.declarationsOf f ≠ [] ∧ KeptSince (·.Lends f e) (before ++ [.deregister f]) f e := by
    obtain ⟨hlisted, hkept⟩ := holds_after_deregister (e := e) hafter
    rw [ht.governs_iff, holds_iff_listed_or_lent, hlisted, hkept]
    simp
  refine ⟨m, hm, hgov, ?_⟩
  have hfree : m.FreeOf f ↔ ∀ e, ¬ m.Governs f e := ⟨And.left, ht.freeOf hs⟩
  simp only [hfree, hgov, not_and_or, not_not, forall_or_left]

end Registration

namespace Schema

/-- A lamp that glows only if its power is on. -/
def lamp : Schema where
  types :=
    [{ id := ⟨0⟩, package := "", simpleName := "Lamp", enclosing := none, qualifiedName := "Lamp"
       fields :=
         [{ id := ⟨⟨0⟩, 0⟩, name := "power", type := .bool },
          { id := ⟨⟨0⟩, 1⟩, name := "glow", type := .bool
            declarations := [.enableIf (.on "power")] }] }]

theorem buildable_lamp : lamp.Buildable := by
  have h₁ := Buildable.empty.rootType
    (show addRootType {} "" "Lamp" = .ok (_, _) from rfl)
  have h₂ := h₁.field (show addField _ ⟨0⟩ "power" .bool = .ok (_, _) from rfl)
  have h₃ := h₂.field (show addField _ ⟨0⟩ "glow" .bool = .ok (_, _) from rfl)
  exact h₃.require (show Schema.require _ ⟨⟨0⟩, 1⟩ (.enableIf (.on "power")) = .ok _ from rfl)

end Schema

namespace Registration

open scoped Pattern.Engine

/-- An entry that was registered for the glow of a lamp, and never lent to it, is freed. -/
theorem freeOf_registered_glow :
    ∃ m, run { schema := .lamp } ([.register ⟨⟨0⟩, 1⟩ [⟨0⟩]] ++
        .deregister ⟨⟨0⟩, 1⟩ :: [.register ⟨⟨0⟩, 0⟩ [⟨1⟩]]) = .ok m ∧
      m.FreeOf ⟨⟨0⟩, 1⟩ := by
  obtain ⟨m, hm, -, hfree⟩ := freeOf_deregistered_iff Schema.buildable_lamp {}
    [.register ⟨⟨0⟩, 1⟩ [⟨0⟩]] [.register ⟨⟨0⟩, 0⟩ [⟨1⟩]] ⟨⟨0⟩, 1⟩ (by decide)
  refine ⟨m, hm, hfree.mpr (.inr ?_)⟩
  rintro e ⟨before, r, after, heq, hlends, -⟩
  have hr : r ∈ [Registration.register ⟨⟨0⟩, 1⟩ [⟨0⟩]] ++ [.deregister ⟨⟨0⟩, 1⟩] := by
    rw [heq]
    exact List.mem_append_right _ List.mem_cons_self
  simp only [List.cons_append, List.nil_append, List.mem_cons, List.not_mem_nil, or_false] at hr
  rcases hr with rfl | rfl <;> exact hlends

/-- An entry that was lent to the glow of a lamp is still under it after the deregistration, and the
next build names the field and puts its gate on the entry. -/
theorem lent_glow_stays :
    ∃ m report installs, run { schema := .lamp } [.register ⟨⟨0⟩, 0⟩ [⟨0⟩],
        .registerDeclared ⟨⟨0⟩, 1⟩ [⟨1⟩], .deregister ⟨⟨0⟩, 1⟩] = .ok m ∧
      ¬ m.FreeOf ⟨⟨0⟩, 1⟩ ∧
      (m.build fun _ => .bool).2.result = .ok (report, installs) ∧
      report.installs = [⟨["Lamp#glow"], true, false⟩] ∧
      installs.map (fun i => (i.entry, i.action)) = [(⟨1⟩, .enable)] := by
  refine ⟨_, _, _, rfl, fun hfree => hfree.1 ⟨1⟩ ⟨_, List.mem_singleton_self _, rfl, ?_⟩,
    rfl, rfl, rfl⟩
  exact List.mem_singleton_self _

end Registration
end FieldGate
