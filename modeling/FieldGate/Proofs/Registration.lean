import FieldGate.Proofs.EntryTable
import FieldGate.Proofs.Governance
import Mathlib.Data.List.Induction

/-! Histories of registrations. A manager that still takes registrations takes them all, and what
governs an entry can be read off the calls. -/
namespace FieldGate

def Schema.declarationsOf (s : Schema) (f : FieldId) : List Declaration :=
  ((s.field? f).map FieldDef.declarations).getD []

theorem Schema.declarationsOf_of_field? {s : Schema} {f : FieldId} {d : FieldDef}
    (hd : s.field? f = some d) : s.declarationsOf f = d.declarations := by
  rw [declarationsOf, hd]
  rfl

namespace Manager

def Governs (m : Manager) (f : FieldId) (e : EntryId) : Prop :=
  ∃ r ∈ m.governed, r.entry = e ∧ f ∈ r.sources

/-- Governing a field is being among its sources, in a coherent state. -/
theorem governs_iff_mem_sources {m : Manager} (h : m.governance.Coherent) {f : FieldId}
    {e : EntryId} : m.Governs f e ↔ f ∈ m.governance.sources e :=
  h.mem_sources_iff.symm

theorem guarded_of_registering {m next : Manager} {f : FieldId} (hm : m.state = .registering) :
    m.guarded f next = .ok next := by
  rw [guarded, hm]

theorem declares_iff (m : Manager) (f : FieldId) :
    m.declares f = true ↔ m.schema.declarationsOf f ≠ [] := by
  unfold declares Schema.declarationsOf
  cases m.schema.field? f <;> simp

end Manager

/-- A call that changes what is registered. -/
inductive Registration
  | register (f : FieldId) (es : List EntryId)
  | registerDeclared (f : FieldId) (es : List EntryId)
  | deregister (f : FieldId)
  deriving DecidableEq, Repr

namespace Registration

variable {m m' : Manager} {s : Schema} {c : Config} {h : List Registration} {r : Registration}
  {f : FieldId} {e : EntryId}

def field : Registration → FieldId
  | register f _ => f
  | registerDeclared f _ => f
  | deregister f => f

def entries : Registration → List EntryId
  | register _ es => es
  | registerDeclared _ es => es
  | deregister _ => []

def Puts (r : Registration) (f : FieldId) (e : EntryId) : Prop := r.field = f ∧ e ∈ r.entries

/-- Whether the call puts the entry under the field without registering it. -/
def Lends : Registration → FieldId → EntryId → Prop
  | registerDeclared g es, f, e => g = f ∧ e ∈ es
  | _, _, _ => False

/-- Whether the call frees the entries that are registered for the field. -/
def Frees : Registration → FieldId → Prop
  | register g _, f => g = f
  | registerDeclared .., _ => False
  | deregister g, f => g = f

def apply (m : Manager) : Registration → Except BuildError Manager
  | register f es => m.register f es
  | registerDeclared f es => m.registerDeclared f es
  | deregister f => m.deregister f

def run (m : Manager) (h : List Registration) : Except BuildError Manager := h.foldlM apply m

def relist (f : FieldId) (es : List EntryId) : Registration → List EntryId
  | register g es' => if f = g then es' else es
  | registerDeclared .. => es
  | deregister g => if f = g then [] else es

/-- The entries that a history leaves registered for a field. -/
def listed (f : FieldId) (h : List Registration) : List EntryId := h.foldl (relist f) []

/-- A call of some kind was made, and no later call that frees the entries of the field ran while
the entry was registered for it. -/
def KeptSince (puts : Registration → Prop) (h : List Registration) (f : FieldId) (e : EntryId) :
    Prop :=
  ∃ before r after, h = before ++ r :: after ∧ puts r ∧
    ∀ mid r' rest, after = mid ++ r' :: rest → r'.Frees f → e ∉ listed f (before ++ r :: mid)

/-- A call put the entry under the field, and the field has kept it since. -/
def Holds (h : List Registration) (f : FieldId) (e : EntryId) : Prop :=
  KeptSince (·.Puts f e) h f e

theorem listed_concat (f : FieldId) (h : List Registration) (r : Registration) :
    listed f (h ++ [r]) = relist f (listed f h) r := by
  simp [listed]

/-- One more call either is of the kind or leaves the entry kept. -/
theorem keptSince_concat {puts : Registration → Prop} :
    KeptSince puts (h ++ [r]) f e ↔
      puts r ∨ KeptSince puts h f e ∧ ¬ (r.Frees f ∧ e ∈ listed f h) := by
  constructor
  · rintro ⟨before, a, after, heq, hputs, hkeep⟩
    -- the call that counts is the new one, or the new one comes after it
    rcases List.eq_nil_or_concat after with rfl | ⟨after, b, rfl⟩
    · obtain ⟨rfl, hr⟩ := List.append_inj' heq rfl
      cases hr
      exact .inl hputs
    · rw [List.concat_eq_append] at heq hkeep
      rw [← List.cons_append, ← List.append_assoc] at heq
      obtain ⟨rfl, hr⟩ := List.append_inj' heq rfl
      cases hr
      refine .inr ⟨⟨before, a, after, rfl, hputs, ?_⟩, ?_⟩
      · rintro mid r' rest rfl
        exact hkeep mid r' (rest ++ [r]) (by simp)
      · rintro ⟨hfrees, hmem⟩
        exact hkeep after r [] rfl hfrees hmem
  · rintro (hputs | ⟨⟨before, a, after, rfl, hputs, hkeep⟩, hlast⟩)
    · exact ⟨h, r, [], rfl, hputs, by simp⟩
    · refine ⟨before, a, after ++ [r], by simp, hputs, ?_⟩
      intro mid r' rest heq hfrees
      rcases List.eq_nil_or_concat rest with rfl | ⟨rest, b, rfl⟩
      · obtain ⟨rfl, hr⟩ := List.append_inj' heq rfl
        cases hr
        exact fun hmem => hlast ⟨hfrees, hmem⟩
      · rw [List.concat_eq_append, ← List.cons_append, ← List.append_assoc] at heq
        obtain ⟨rfl, -⟩ := List.append_inj' heq rfl
        exact hkeep mid r' rest rfl hfrees

/-- One more call either puts the entry under the field or leaves it there. -/
theorem holds_concat :
    Holds (h ++ [r]) f e ↔ r.Puts f e ∨ Holds h f e ∧ ¬ (r.Frees f ∧ e ∈ listed f h) :=
  keptSince_concat

theorem not_keptSince_nil {puts : Registration → Prop} : ¬ KeptSince puts [] f e := by
  rintro ⟨before, r, after, heq, -⟩
  simp at heq

/-- An entry is under a field because it is registered for it or because it was lent to it. -/
theorem holds_iff_listed_or_lent :
    Holds h f e ↔ e ∈ listed f h ∨ KeptSince (·.Lends f e) h f e := by
  induction h using List.reverseRecOn with
  | nil => simp [listed, Holds, not_keptSince_nil]
  | append_singleton h r ih =>
    rw [listed_concat, holds_concat, keptSince_concat, ih]
    cases r <;> grind [Puts, field, entries, Frees, relist, Lends]

/-- What a manager knows after a history: the table and the sources are those of the history. -/
structure Tracks (s : Schema) (c : Config) (h : List Registration) (m : Manager) : Prop where
  state : m.state = .registering
  schema : m.schema = s
  config : m.config = c
  coherent : m.governance.Coherent
  table : ∀ f, m.entries.entries f = listed f h
  sources : ∀ f e, f ∈ m.governance.sources e ↔ s.declarationsOf f ≠ [] ∧ Holds h f e

theorem tracks_nil (s : Schema) (c : Config) : Tracks s c [] { schema := s, config := c } where
  state := rfl
  schema := rfl
  config := rfl
  coherent := Governance.coherent_empty
  table _ := rfl
  sources f e := by simp [Governance.sources, Governance.place?, Holds, not_keptSince_nil]

theorem Tracks.governs_iff (ht : Tracks s c h m) :
    m.Governs f e ↔ s.declarationsOf f ≠ [] ∧ Holds h f e :=
  (Manager.governs_iff_mem_sources ht.coherent).trans (ht.sources f e)

private theorem mem_sources_release (hc : m.governance.Coherent) (g : FieldId) :
    f ∈ (m.release g).governance.sources e ↔
      f ∈ m.governance.sources e ∧ ¬ (g = f ∧ e ∈ m.entries.entries f) := by
  refine hc.mem_sources_release.trans (and_congr_right fun _ => not_congr ?_)
  constructor <;> rintro ⟨rfl, he⟩ <;> exact ⟨rfl, he⟩

private theorem mem_sources_declare (hc : m.governance.Coherent) (g : FieldId)
    (es : List EntryId) :
    f ∈ (m.declare g es).governance.sources e ↔
      f ∈ m.governance.sources e ∨ m.schema.declarationsOf f ≠ [] ∧ g = f ∧ e ∈ es := by
  rw [← m.declares_iff]
  unfold Manager.declare
  split
  · rename_i hd
    refine hc.mem_sources_declare.trans (or_congr_right ?_)
    constructor
    · rintro ⟨rfl, he⟩
      exact ⟨hd, rfl, he⟩
    · rintro ⟨-, rfl, he⟩
      exact ⟨rfl, he⟩
  · rename_i hd
    constructor
    · exact Or.inl
    · rintro (hf | ⟨hd', rfl, -⟩)
      · exact hf
      · exact absurd hd' hd

private theorem coherent_declare (hc : m.governance.Coherent) (g : FieldId) (es : List EntryId) :
    (m.declare g es).governance.Coherent := by
  unfold Manager.declare
  split
  · exact hc.declare g es
  · exact hc

private theorem frame_declare (m : Manager) (g : FieldId) (es : List EntryId) :
    (m.declare g es).state = m.state ∧ (m.declare g es).schema = m.schema ∧
      (m.declare g es).config = m.config ∧ (m.declare g es).entries = m.entries := by
  unfold Manager.declare
  split <;> exact ⟨rfl, rfl, rfl, rfl⟩

def retable (t : EntryTable) : Registration → EntryTable
  | register f es => t.register f (some es)
  | registerDeclared .. => t
  | deregister f => t.register f none

/-- A call is taken while the manager registers, and changes the table as it says. -/
theorem apply_spec (h : r.apply m = .ok m') :
    m.state = .registering ∧ m'.entries = r.retable m.entries := by
  have hguarded {next : Manager} {g : FieldId} (hg : m.guarded g next = .ok m') :
      m.state = .registering ∧ m' = next := by
    unfold Manager.guarded at hg
    split at hg
    · rename_i hstate
      exact ⟨hstate, (Except.ok.inj hg).symm⟩
    · cases hg
  cases r with
  | register g es =>
    obtain ⟨hstate, rfl⟩ := hguarded h
    exact ⟨hstate, congrArg (·.register g (some es)) (frame_declare (m.release g) g es).2.2.2⟩
  | registerDeclared g es =>
    obtain ⟨hstate, rfl⟩ := hguarded h
    exact ⟨hstate, (frame_declare m g es).2.2.2⟩
  | deregister g =>
    obtain ⟨hstate, rfl⟩ := hguarded h
    exact ⟨hstate, rfl⟩

private theorem tracks_register (ht : Tracks s c h m) (g : FieldId) (es : List EntryId) :
    ∃ m', m.register g es = .ok m' ∧ Tracks s c (h ++ [.register g es]) m' := by
  have hr : (m.release g).governance.Coherent := ht.coherent.release g _
  obtain ⟨hstate, hschema, hconfig, htable⟩ := frame_declare (m.release g) g es
  refine ⟨_, Manager.guarded_of_registering ht.state, hstate.trans ht.state,
    hschema.trans ht.schema, hconfig.trans ht.config, coherent_declare hr g es, ?_, ?_⟩
  · intro f
    rw [listed_concat, ← ht.table]
    refine (EntryTable.entries_register ..).trans ?_
    rw [htable]
    rfl
  · intro f e
    refine (mem_sources_declare hr g es).trans ?_
    rw [mem_sources_release ht.coherent, holds_concat, ht.sources, ht.table,
      show (m.release g).schema = s from ht.schema]
    simp only [Puts, Frees, field, entries]
    tauto

private theorem tracks_registerDeclared (ht : Tracks s c h m) (g : FieldId) (es : List EntryId) :
    ∃ m', m.registerDeclared g es = .ok m' ∧ Tracks s c (h ++ [.registerDeclared g es]) m' := by
  obtain ⟨hstate, hschema, hconfig, htable⟩ := frame_declare m g es
  refine ⟨_, Manager.guarded_of_registering ht.state, hstate.trans ht.state,
    hschema.trans ht.schema, hconfig.trans ht.config, coherent_declare ht.coherent g es, ?_, ?_⟩
  · intro f
    rw [listed_concat, htable, ht.table]
    rfl
  · intro f e
    rw [mem_sources_declare ht.coherent, holds_concat, ht.sources, ht.schema]
    simp only [Puts, Frees, field, entries]
    tauto

private theorem tracks_deregister (ht : Tracks s c h m) (g : FieldId) :
    ∃ m', m.deregister g = .ok m' ∧ Tracks s c (h ++ [.deregister g]) m' := by
  refine ⟨_, Manager.guarded_of_registering ht.state, ht.state, ht.schema, ht.config,
    ht.coherent.release g _, ?_, ?_⟩
  · intro f
    rw [listed_concat, ← ht.table]
    exact EntryTable.entries_register ..
  · intro f e
    refine (mem_sources_release ht.coherent g).trans ?_
    rw [holds_concat, ht.sources, ht.table]
    simp only [Puts, Frees, field, entries, List.not_mem_nil]
    tauto

/-- One call is taken, and what the manager knows is carried on. -/
theorem Tracks.step (ht : Tracks s c h m) (r : Registration) :
    ∃ m', r.apply m = .ok m' ∧ Tracks s c (h ++ [r]) m' := by
  cases r with
  | register g es => exact tracks_register ht g es
  | registerDeclared g es => exact tracks_registerDeclared ht g es
  | deregister g => exact tracks_deregister ht g

theorem run_concat (m : Manager) (h : List Registration) (r : Registration) :
    run m (h ++ [r]) = (run m h).bind fun m => r.apply m := by
  rw [run, List.foldlM_append]
  cases hm : h.foldlM apply m with
  | error e => simp [run, hm, bind, Except.bind]
  | ok m' => cases hr : r.apply m' <;> simp [run, hm, hr, bind, Except.bind, pure, Except.pure]

/-- Every history is taken whole. -/
theorem tracks_run (s : Schema) (c : Config) (h : List Registration) :
    ∃ m, run { schema := s, config := c } h = .ok m ∧ Tracks s c h m := by
  induction h using List.reverseRecOn with
  | nil => exact ⟨_, rfl, tracks_nil s c⟩
  | append_singleton h r ih =>
    obtain ⟨m, hm, ht⟩ := ih
    obtain ⟨m', hm', ht'⟩ := ht.step r
    exact ⟨m', by rw [run_concat, hm]; exact hm', ht'⟩

/-- After any history a field is among the sources of an entry exactly if it declares a requirement
and the calls leave it there; index and records are inverse to each other, no record names a field
twice, and the entries registered for a declaring field are governed by it. -/
theorem governs_iff_history (s : Schema) (c : Config) (h : List Registration) :
    ∃ m, run { schema := s, config := c } h = .ok m ∧
      (∀ f, m.entries.entries f = listed f h) ∧
      (∀ f e, m.Governs f e ↔ s.declarationsOf f ≠ [] ∧ Holds h f e) ∧
      (m.governed.map Governed.entry).Nodup ∧
      (∀ i r, m.governed[i]? = some r → m.governance.place? r.entry = some i) ∧
      (∀ e i, m.governance.place? e = some i → ∃ r, m.governed[i]? = some r ∧ r.entry = e) ∧
      (∀ r ∈ m.governed, r.sources.Nodup) ∧
      ∀ f e, s.declarationsOf f ≠ [] → e ∈ m.entries.entries f → m.Governs f e := by
  obtain ⟨m, hm, ht⟩ := tracks_run s c h
  refine ⟨m, hm, ht.table, fun _ _ => ht.governs_iff, ht.coherent.entries_nodup,
    fun _ _ => ht.coherent.place_of_record, fun _ _ => ht.coherent.record_of_place,
    fun _ => ht.coherent.sources_nodup, ?_⟩
  intro f e hd he
  rw [ht.table] at he
  exact ht.governs_iff.mpr ⟨hd, holds_iff_listed_or_lent.mpr (.inl he)⟩

end Registration
end FieldGate
