import FieldGate.Pattern.Truth
import FieldGate.Proofs.Spans

/-! Patterns that read texts of bounded length and ask for no conditions. They can be written out as
a list of readings, each a set for each character. -/
namespace FieldGate.Pattern

def Reads (ws : List (List CharSet)) (p q : Place) : Prop :=
  ∃ w ∈ ws, ∃ cs, List.Forall₂ CharSet.Has w cs ∧ Place.Past cs p q

section Reads

variable {ws vs : List (List CharSet)} {p q : Place}

theorem reads_singleton_nil : Reads [[]] p q ↔ p = q := by
  constructor
  · rintro ⟨w, hw, cs, hcs, hpast⟩
    obtain rfl := List.mem_singleton.mp hw
    cases hcs
    rwa [Place.past_nil] at hpast
  · rintro rfl
    exact ⟨[], List.mem_singleton_self _, [], .nil, by rw [Place.past_nil]⟩

theorem reads_append : Reads (ws ++ vs) p q ↔ Reads ws p q ∨ Reads vs p q := by
  simp only [Reads, List.mem_append, or_and_right, exists_or]

theorem reads_set (s : CharSet) : Reads [[s]] p q ↔ reads s.Has p q := by
  constructor
  · rintro ⟨w, hw, cs, hcs, hpast⟩
    obtain rfl := List.mem_singleton.mp hw
    cases hcs with
    | cons hc hnil =>
      cases hnil
      obtain ⟨rest, hafter, rfl⟩ := Place.past_singleton.mp hpast
      exact ⟨_, rest, hafter, hc, rfl⟩
  · rintro ⟨c, rest, hafter, hc, rfl⟩
    exact ⟨[s], List.mem_singleton_self _, [c], .cons hc .nil,
      Place.past_singleton.mpr ⟨rest, hafter, rfl⟩⟩

def inTurn (ws vs : List (List CharSet)) : List (List CharSet) :=
  ws.flatMap fun w => vs.map (w ++ ·)

theorem reads_inTurn : Reads (inTurn ws vs) p q ↔ Relation.Comp (Reads ws) (Reads vs) p q := by
  constructor
  · rintro ⟨_, hmem, cs, hcs, hpast⟩
    obtain ⟨w, hw, hmem⟩ := List.mem_flatMap.mp hmem
    obtain ⟨v, hv, rfl⟩ := List.mem_map.mp hmem
    have hw' := List.forall₂_take w.length hcs
    have hv' := List.forall₂_drop w.length hcs
    rw [List.take_left] at hw'
    rw [List.drop_left] at hv'
    rw [← List.take_append_drop w.length cs, Place.past_append] at hpast
    obtain ⟨mid, hmid, hq⟩ := hpast
    exact ⟨mid, ⟨w, hw, _, hw', hmid⟩, v, hv, _, hv', hq⟩
  · rintro ⟨mid, ⟨w, hw, cs, hcs, hpast⟩, v, hv, ds, hds, hpast'⟩
    refine ⟨w ++ v, List.mem_flatMap.mpr ⟨w, hw, List.mem_map_of_mem hv⟩, cs ++ ds,
      List.rel_append hcs hds, ?_⟩
    rw [Place.past_append]
    exact ⟨mid, hpast, hpast'⟩

end Reads

namespace Tree

mutual

/-- The readings of a pattern, if it has no conditions in it and repeats a part at most once. -/
def readings? : Tree → Option (List (List CharSet))
  | empty => some [[]]
  | set s => some [[s]]
  | repeated body 0 (some 1) _ => body.readings?.map ([] :: ·)
  | group _ body => body.readings?
  | concat parts => readingsInTurn? parts
  | alternate branches => readingsOfAny? branches
  | look _ | repeated .. => none

def readingsInTurn? : List Tree → Option (List (List CharSet))
  | [] => some [[]]
  | t :: rest => return inTurn (← t.readings?) (← readingsInTurn? rest)

def readingsOfAny? : List Tree → Option (List (List CharSet))
  | [] => some []
  | t :: rest => return (← t.readings?) ++ (← readingsOfAny? rest)

end

mutual

/-- The spans of a pattern that has readings are those of its readings. -/
theorem spans_of_readings? : (t : Tree) → {ws : List (List CharSet)} → t.readings? = some ws →
    (p q : Place) → (t.spans p q ↔ Reads ws p q)
  | empty, ws, h, p, q => by
    cases h
    exact reads_singleton_nil.symm
  | set s, ws, h, p, q => by
    cases h
    exact (reads_set s).symm
  | repeated body 0 (some 1) _, ws, h, p, q => by
    obtain ⟨vs, hvs, rfl⟩ := Option.map_eq_some_iff.mp h
    rw [← List.singleton_append, reads_append, reads_singleton_nil,
      ← spans_of_readings? body hvs, spans]
    have hupTo := timesUpTo_add (R := body.spans) (p := p) (q := q) (m := 1) (n := 0) 0
      (Nat.le_refl 1) (Nat.zero_le 1)
    rw [timesUpTo_zero, times_one, Relation.comp_eq] at hupTo
    rw [← hupTo]
    simp [TimesUpTo]
  | group _ body, ws, h, p, q => by rw [spans, spans_of_readings? body h]
  | look _, ws, h, p, q => by cases h
  | concat parts, ws, h, p, q => by rw [spans, spansInTurn_of_readings? parts h]
  | alternate branches, ws, h, p, q => by rw [spans, spansOneOf_of_readings? branches h]

theorem spansInTurn_of_readings? : (ts : List Tree) → {ws : List (List CharSet)} →
    readingsInTurn? ts = some ws → (p q : Place) → (spansInTurn ts p q ↔ Reads ws p q)
  | [], ws, h, p, q => by
    cases h
    exact reads_singleton_nil.symm
  | t :: rest, ws, h, p, q => by
    obtain ⟨us, hus, h⟩ := Option.bind_eq_some_iff.mp h
    obtain ⟨vs, hvs, h⟩ := Option.bind_eq_some_iff.mp h
    cases h
    rw [reads_inTurn, spansInTurn]
    exact exists_congr fun mid => and_congr (spans_of_readings? t hus p mid)
      (spansInTurn_of_readings? rest hvs mid q)

theorem spansOneOf_of_readings? : (ts : List Tree) → {ws : List (List CharSet)} →
    readingsOfAny? ts = some ws → (p q : Place) → (spansOneOf ts p q ↔ Reads ws p q)
  | [], ws, h, p, q => by
    cases h
    simp [spansOneOf, Reads]
  | t :: rest, ws, h, p, q => by
    obtain ⟨us, hus, h⟩ := Option.bind_eq_some_iff.mp h
    obtain ⟨vs, hvs, h⟩ := Option.bind_eq_some_iff.mp h
    cases h
    rw [reads_append, spansOneOf]
    exact or_congr (spans_of_readings? t hus p q) (spansOneOf_of_readings? rest hvs p q)

end

end Tree

end FieldGate.Pattern
