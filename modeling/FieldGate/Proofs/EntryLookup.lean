import FieldGate.Proofs.EntryTable
import Mathlib.Data.List.Induction

/-! Looking entries up after any registrations. The last call for a field decides what it has, calls
for other fields have no part in it, and a negative index counts from the end. -/
namespace FieldGate.EntryTable

abbrev Call := FieldId × Option (List EntryId)

variable {calls later : List Call} {f : FieldId} {es : Option (List EntryId)} {t : EntryTable}

def registerAll (t : EntryTable) (calls : List Call) : EntryTable :=
  calls.foldl (fun t c => t.register c.1 c.2) t

def after (calls : List Call) : EntryTable := registerAll {} calls

/-- The last call for a field, with what it gave the field. -/
def LastCall (calls : List Call) (f : FieldId) (es : Option (List EntryId)) : Prop :=
  ∃ before later, calls = before ++ (f, es) :: later ∧ ∀ c ∈ later, c.1 ≠ f

theorem entries?_registerAll_of_others (h : ∀ c ∈ later, c.1 ≠ f) :
    (t.registerAll later).entries? f = t.entries? f := by
  induction later generalizing t with
  | nil => rfl
  | cons c later ih =>
    obtain ⟨hc, hlater⟩ := List.forall_mem_cons.mp h
    refine (ih (t := t.register c.1 c.2) hlater).trans ?_
    rw [entries?_register, if_neg (Ne.symm hc)]

theorem LastCall.entries?_after (h : LastCall calls f es) : (after calls).entries? f = es := by
  obtain ⟨before, later, rfl, hlater⟩ := h
  have hsplit : after (before ++ (f, es) :: later) =
      ((after before).register f es).registerAll later := by
    simp [after, registerAll]
  rw [hsplit, entries?_registerAll_of_others hlater, entries?_register, if_pos rfl]

/-- A field without a last call was never called. -/
theorem never_or_lastCall (calls : List Call) (f : FieldId) :
    (∀ c ∈ calls, c.1 ≠ f) ∨ ∃ es, LastCall calls f es := by
  induction calls using List.reverseRecOn with
  | nil => exact .inl (List.forall_mem_nil _)
  | append_singleton calls c ih =>
    by_cases hc : c.1 = f
    · subst hc
      exact .inr ⟨c.2, calls, [], rfl, List.forall_mem_nil _⟩
    · rcases ih with hnever | ⟨es, before, later, rfl, hlater⟩
      · exact .inl (List.forall_mem_append.mpr ⟨hnever, List.forall_mem_singleton.mpr hc⟩)
      · refine .inr ⟨es, before, later ++ [c], by simp, ?_⟩
        exact List.forall_mem_append.mpr ⟨hlater, List.forall_mem_singleton.mpr hc⟩

theorem entries?_after_eq_none_iff :
    (after calls).entries? f = none ↔ (∀ c ∈ calls, c.1 ≠ f) ∨ LastCall calls f none := by
  constructor
  · intro hnone
    rcases never_or_lastCall calls f with hnever | ⟨es, hlast⟩
    · exact .inl hnever
    · rw [hlast.entries?_after] at hnone
      subst hnone
      exact .inr hlast
  · rintro (hnever | hlast)
    · exact entries?_registerAll_of_others hnever
    · exact hlast.entries?_after

theorem entries?_after_eq_some_iff {es : List EntryId} :
    (after calls).entries? f = some es ↔ LastCall calls f (some es) := by
  refine ⟨fun hsome => ?_, LastCall.entries?_after⟩
  rcases never_or_lastCall calls f with hnever | ⟨es', hlast⟩
  · rw [entries?_after_eq_none_iff.mpr (.inl hnever)] at hsome
    cases hsome
  · rw [hlast.entries?_after] at hsome
    subst hsome
    exact hlast

/-- What a field has depends on its own calls only. -/
theorem entries?_registerAll_filter (t : EntryTable) (calls : List Call) (f : FieldId) :
    (t.registerAll (calls.filter fun c => c.1 = f)).entries? f =
      (t.registerAll calls).entries? f := by
  induction calls using List.reverseRecOn with
  | nil => rfl
  | append_singleton calls c ih =>
    have hlast : (t.registerAll (calls ++ [c])) = (t.registerAll calls).register c.1 c.2 := by
      simp [registerAll]
    rw [hlast, entries?_register, List.filter_append]
    by_cases hc : c.1 = f
    · simp [hc, registerAll, entries?_register]
    · simp [hc, Ne.symm hc, ih]

section Places

variable {items : List EntryId} {i : Int}

theorem place?_of_nonneg (h : 0 ≤ i) : place? items i = items[i.toNat]? := by
  simp only [place?, if_neg (Int.not_lt.mpr h)]

/-- A negative place that the list has is one counted from the start. -/
theorem place?_of_neg (h : i < 0) (hn : -(items.length : Int) ≤ i) :
    place? items i = items[(items.length + i).toNat]? := by
  have hnot : ¬ (items.length + i < 0) := by omega
  simp only [place?, if_pos h, if_neg hnot]

theorem exists_getElem? (h : 0 ≤ i) (hn : i < items.length) : ∃ e, items[i.toNat]? = some e := by
  have hlt : i.toNat < items.length := by omega
  exact ⟨_, List.getElem?_eq_getElem hlt⟩

theorem place?_eq_none (h : i < -(items.length : Int) ∨ (items.length : Int) ≤ i) :
    place? items i = none := by
  rcases h with hlow | hhigh
  · have hneg : i < 0 := by omega
    have hbelow : items.length + i < 0 := by omega
    simp only [place?, if_pos hneg, if_pos hbelow]
  · rw [place?_of_nonneg (by omega)]
    exact List.getElem?_eq_none (by omega)

end Places

section Answers

variable {es : List EntryId} {e : EntryId} {i : Int} {text : String}

private theorem entry_of_place (h : t.entries? f = some es) (he : place? es i = some e) :
    t.locate f i text = .ok e := by
  cases es with
  | nil => simp [place?] at he
  | cons e' es => simp only [locate, h, he]

private theorem entry_of_no_place (h : t.entries? f = some es) (hne : es ≠ [])
    (hi : place? es i = none) :
    t.locate f i text = .error (.indexOutOfRange text i (es.length - 1)) := by
  obtain ⟨e', es, rfl⟩ := List.exists_cons_of_ne_nil hne
  simp only [locate, h, hi]

private theorem entry_kinds (t : EntryTable) (f : FieldId) (i : Int) (text : String) :
    (t.locate f i text = .error (.unregistered text) ↔ t.entries? f = none) ∧
      (t.locate f i text = .error (.noEntries text) ↔ t.entries? f = some []) := by
  cases h : t.entries? f with
  | none => simp [locate, h]
  | some es =>
    cases es with
    | nil => simp [locate, h]
    | cons e es => cases hi : place? (e :: es) i <;> simp [locate, h, hi]

end Answers

/-- After any calls the last one for the field decides: a field that was never called, or removed
last, is unregistered; without entries it says so; and of several entries an index means the one
at its place from the start, or from the end if it is negative, as far as the list goes. Calls for
other fields have no part in the answer. -/
theorem entry_after_calls (calls : List Call) (f : FieldId) (text : String) :
    let answer (i : Int) := (after calls).locate f i text
    (∀ i : Int32, (after calls).entry ⟨⟨f, i⟩, text⟩ = answer i.toInt) ∧
    (∀ i, answer i = .error (.unregistered text) ↔
      (∀ c ∈ calls, c.1 ≠ f) ∨ LastCall calls f none) ∧
    (∀ i, answer i = .error (.noEntries text) ↔ LastCall calls f (some [])) ∧
    (∀ es, es ≠ [] → LastCall calls f (some es) → ∀ i : Int,
      (0 ≤ i → i < es.length → ∃ e, es[i.toNat]? = some e ∧ answer i = .ok e) ∧
      (-(es.length : Int) ≤ i → i < 0 → ∃ e, es[(es.length + i).toNat]? = some e ∧
        answer i = .ok e ∧ answer (es.length + i) = .ok e) ∧
      (i < -(es.length : Int) ∨ es.length ≤ i →
        answer i = .error (.indexOutOfRange text i (es.length - 1)))) ∧
    ∀ others, (others.filter fun c => c.1 = f) = (calls.filter fun c => c.1 = f) →
      ∀ i, (after others).locate f i text = answer i := by
  intro answer
  refine ⟨fun i => rfl, fun i => ?_, fun i => ?_, ?_, ?_⟩
  · exact (entry_kinds _ f i text).1.trans entries?_after_eq_none_iff
  · exact (entry_kinds _ f i text).2.trans entries?_after_eq_some_iff
  · intro es hne hlast i
    have h : (after calls).entries? f = some es := hlast.entries?_after
    refine ⟨fun hlow hhigh => ?_, fun hlow hneg => ?_, fun hout => ?_⟩
    · obtain ⟨e, he⟩ := exists_getElem? hlow hhigh
      exact ⟨e, he, entry_of_place h ((place?_of_nonneg hlow).trans he)⟩
    · have hfromStart : 0 ≤ es.length + i := by omega
      have hinside : es.length + i < es.length := by omega
      obtain ⟨e, he⟩ := exists_getElem? hfromStart hinside
      exact ⟨e, he, entry_of_place h ((place?_of_neg hneg hlow).trans he),
        entry_of_place h ((place?_of_nonneg hfromStart).trans he)⟩
    · exact entry_of_no_place h hne (place?_eq_none hout)
  · intro others hothers i
    have hsame : (after others).entries? f = (after calls).entries? f := by
      rw [after, after, ← entries?_registerAll_filter, hothers, entries?_registerAll_filter]
    simp only [answer, locate, hsame]

/-- The three entries of a field that was registered twice, with calls for another field in between:
the last place and the third from the end are found, and the least index of 32 bits is out of
range. -/
theorem entry_after_four_calls :
    let power : FieldId := ⟨⟨0⟩, 0⟩
    let glow : FieldId := ⟨⟨0⟩, 1⟩
    let calls : List Call :=
      [(power, none), (glow, some [⟨7⟩]), (power, some [⟨0⟩, ⟨1⟩, ⟨2⟩]), (glow, none)]
    let answer (i : Int32) := (after calls).entry ⟨⟨power, i⟩, "power"⟩
    answer 2 = .ok ⟨2⟩ ∧ answer (-3) = .ok ⟨0⟩ ∧
      answer Int32.minValue = .error (.indexOutOfRange "power" (-2147483648) 2) ∧
      (after (calls.take 3)).entry ⟨⟨power, -3⟩, "power"⟩ = answer (-3) := by
  intro power glow calls answer
  obtain ⟨hanswers, -, -, hplaces, hothers⟩ := entry_after_calls calls power "power"
  have hlast : LastCall calls power (some [⟨0⟩, ⟨1⟩, ⟨2⟩]) :=
    ⟨calls.take 2, [(glow, none)], rfl, by decide⟩
  have hplace := hplaces _ (List.cons_ne_nil _ _) hlast
  obtain ⟨e, he, hanswer⟩ := (hplace 2).1 (by decide) (by decide)
  obtain ⟨e', he', hanswer', -⟩ := (hplace (-3)).2.1 (by decide) (by decide)
  cases he
  cases he'
  refine ⟨(hanswers 2).trans hanswer, (hanswers (-3)).trans hanswer', ?_, ?_⟩
  · exact (hanswers Int32.minValue).trans ((hplace _).2.2 (.inl (by decide)))
  · exact (hothers (calls.take 3) (by decide) (-3)).trans (hanswers (-3)).symm

end FieldGate.EntryTable
