import FieldGate.Proofs.Meaning

/-! How the gates of a build are put together. What is true of the gates of targets, and of every
combination of one gate or more that it is true of, is true of all that a build installs. -/
namespace FieldGate

variable [PatternEngine] {P : Gate → Prop}
  (hcombine : ∀ q gs, gs ≠ [] → (∀ g ∈ gs, P g) → P (Requirement.combine q gs))
include hcombine

namespace Definition

variable {c : Context} {g : Gate}

private theorem combine_of_parts {α : Type} {parts : List α} {gs : List Gate}
    {make : α → Except BuildError Gate} (hparts : parts ≠ [])
    (hgs : List.Forall₂ (fun part g => make part = .ok g) parts gs)
    (h : ∀ part g, make part = .ok g → P g) (q : Quantifier) : P (Requirement.combine q gs) := by
  refine hcombine q gs ?_ fun g hg => ?_
  · rintro rfl
    exact hparts (List.forall₂_nil_right_iff.mp hgs)
  · obtain ⟨part, -, hmake⟩ := exists_left_of_mem hgs hg
    exact h part g hmake

theorem of_gate {d : Definition}
    (htarget : ∀ owner clause r g, (targetGate c owner clause r).result = .ok g → P g)
    (hg : (gate c d).result = .ok g) : P g := by
  obtain ⟨hclauses, gs, hgs, rfl⟩ := gate_eq_ok_iff.mp hg
  refine combine_of_parts hcombine hclauses hgs (fun clause g hg => ?_) d.quantifier
  obtain ⟨htargets, gs, hgs, rfl⟩ := clauseGate_eq_ok_iff.mp hg
  exact combine_of_parts hcombine htargets hgs (htarget _ clause) .any

end Definition

namespace Manager

variable {m : Manager} {typeOf : EntryId → ValueType} {report : Report} {installs : List Install}

/-- The gates of targets are made with the table of handlers that the report lists. -/
theorem of_mem_installs (h : (m.resolve typeOf).result = .ok (report, installs))
    (htarget : ∀ table, (HandlerTable.build (m.basis typeOf)).result = .ok table →
      report.handlers = table.keys → ∀ owner clause r g,
        (Definition.targetGate ⟨m.basis typeOf, table⟩ owner clause r).result = .ok g → P g)
    {i : Install} (hi : i ∈ installs) : P i.gate := by
  obtain ⟨table, known, htable, hknown, -, rfl, rfl⟩ := resolve_spec h
  obtain ⟨g, -, -, hgate⟩ := mem_installs_iff.mp hi
  unfold entryGate conjoin at hgate
  split at hgate
  · cases hgate
  · rename_i hne
    rw [← Option.some.inj hgate]
    refine hcombine .all _ (mt List.isEmpty_iff.mpr hne) fun gate hmem => ?_
    obtain ⟨f, -, gs, hgs, hmem⟩ := mem_gatesFor.mp hmem
    obtain ⟨owner, d, -, defn, -, hgate⟩ := declares_of_resolveField (hknown f gs hgs) hmem
    exact Definition.of_gate hcombine (htarget table htable rfl) hgate

end Manager

end FieldGate
