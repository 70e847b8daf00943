import FieldGate.Proofs.Installed
import FieldGate.Proofs.SameEntries

/-! Registrations in another order. Where calls only add, the same calls leave the same entries to
references and the same sources to entries, and so the same gates but for their order. -/
namespace FieldGate

namespace Requirement

variable {α ε : Type} {answer : α → Except ε Bool} {rs : List (Requirement α)}

private theorem checkEach_all_eq_true_iff {found : Bool} :
    (checkEach answer .all found rs).outcome = .ok true ↔
      ∀ r ∈ rs, (check answer r).outcome = .ok true := by
  induction rs generalizing found with
  | nil => simp [checkEach, Quantifier.unsettled]
  | cons r rs ih =>
    rw [checkEach_cons, Checked.outcome_andThen, bind_eq_ok_iff, List.forall_mem_cons, ← ih]
    constructor
    · rintro ⟨b, hb, hrest⟩
      cases b with
      | true => exact ⟨hb, hrest⟩
      | false => cases hrest
    · rintro ⟨hr, hrs⟩
      exact ⟨true, hr, hrs⟩

/-- Requirements joined together hold exactly if each of them does, whatever their order. -/
theorem check_all_eq_true_iff :
    (check answer (all rs)).outcome = .ok true ↔ ∀ r ∈ rs, (check answer r).outcome = .ok true := by
  rw [all, check_combine]
  exact checkEach_all_eq_true_iff

end Requirement

namespace Registration

variable {h h' : List Registration} {r : Registration} {m m' : Manager} {f : FieldId} {e : EntryId}

/-- The field whose entries the call registers. -/
def registered? : Registration → Option FieldId
  | register f _ => some f
  | registerDeclared .. => none
  | deregister _ => none

/-- A history that registers no field twice and deregisters none. -/
structure Additive (h : List Registration) : Prop where
  kept : ∀ f, .deregister f ∉ h
  once : (h.filterMap registered?).Nodup

theorem Additive.perm (ha : Additive h) (hp : h.Perm h') : Additive h' where
  kept f hf := ha.kept f (hp.mem_iff.mpr hf)
  once := (hp.filterMap registered?).nodup_iff.mp ha.once

private theorem Additive.of_concat (ha : Additive (h ++ [r])) :
    Additive h ∧ ∀ f, r.registered? = some f → ∀ es, .register f es ∉ h := by
  have honce := ha.once
  rw [List.filterMap_append, List.nodup_append] at honce
  refine ⟨⟨fun f hf => ha.kept f (List.mem_append_left _ hf), honce.1⟩, ?_⟩
  intro f hf es hmem
  exact honce.2.2 f (List.mem_filterMap.mpr ⟨_, hmem, rfl⟩) f
    (List.mem_filterMap.mpr ⟨r, List.mem_singleton_self r, hf⟩) rfl

private theorem listed_eq_nil (hf : ∀ es, .register f es ∉ h) : listed f h = [] := by
  induction h using List.reverseRecOn with
  | nil => rfl
  | append_singleton h r ih =>
    have hprev := ih fun es hmem => hf es (List.mem_append_left _ hmem)
    rw [listed_concat, hprev]
    cases r with
    | register g es =>
      refine if_neg ?_
      rintro rfl
      exact hf es (List.mem_append_right _ (List.mem_singleton_self _))
    | registerDeclared g es => rfl
    | deregister g => exact ite_self _

/-- Where calls only add, a field has all the entries that were ever put under it. -/
theorem Additive.holds_iff (ha : Additive h) : Holds h f e ↔ ∃ r ∈ h, r.Puts f e := by
  induction h using List.reverseRecOn with
  | nil => simp [Holds, not_keptSince_nil]
  | append_singleton h r ih =>
    obtain ⟨hprev, hfresh⟩ := ha.of_concat
    have hfrees : ¬ (r.Frees f ∧ e ∈ listed f h) := by
      rintro ⟨hr, he⟩
      cases r with
      | register g es =>
        obtain rfl : g = f := hr
        rw [listed_eq_nil (hfresh g rfl)] at he
        cases he
      | registerDeclared g es => exact hr
      | deregister g => exact ha.kept g (List.mem_append_right _ (List.mem_singleton_self _))
    rw [holds_concat, ih hprev]
    simp only [hfrees, not_false_eq_true, and_true, List.mem_append, List.mem_singleton,
      or_and_right, exists_or, exists_eq_left]
    exact or_comm

end Registration

namespace Surface

open Registration

variable {sch : Schema} {c : Config} {h h' : List Registration}

/-- After such a history the table has just what was registered. -/
theorem run_of_additive [PatternEngine] (sch : Schema) (c : Config) (es : Entries)
    (ha : Additive h) :
    ∃ m, Tracks sch c h m ∧
      (∀ f fs, m.entries.entries? f = some fs ↔ .register f fs ∈ h) ∧
      (start sch c es).run (h.map .registration) = { manager := m, entries := es } := by
  induction h using List.reverseRecOn with
  | nil => exact ⟨_, tracks_nil sch c, by simp [EntryTable.entries?], rfl⟩
  | append_singleton h r ih =>
    obtain ⟨hprev, hfresh⟩ := ha.of_concat
    obtain ⟨m, ht, htable, hrun⟩ := ih hprev
    obtain ⟨m', hm', ht'⟩ := ht.step r
    refine ⟨m', ht', ?_, ?_⟩
    · intro f fs
      rw [(apply_spec hm').2, List.mem_append, List.mem_singleton, ← htable f fs]
      cases r with
      | register g es =>
        rw [retable, EntryTable.entries?_register]
        by_cases hfg : f = g
        · subst hfg
          have hnone : m.entries.entries? f ≠ some fs :=
            fun hsome => hfresh f rfl fs ((htable f fs).mp hsome)
          simp [hnone, eq_comm]
        · simp [hfg]
      | registerDeclared g es => simp [retable]
      | deregister g =>
        exact absurd (List.mem_append_right _ (List.mem_singleton_self _)) (ha.kept g)
    · rw [List.map_append, List.map_singleton, run_concat, hrun]
      simp only [ask, hm']

end Surface

namespace Manager

variable {m m' : Manager} {typeOf : EntryId → ValueType} {e : EntryId} {a : Action}

/-- Two managers that know the same but for the order. -/
structure Alike (m m' : Manager) : Prop where
  schema : m'.schema = m.schema
  config : m'.config = m.config
  entry : m'.entries.entry = m.entries.entry
  governs : ∀ f e, m'.Governs f e ↔ m.Governs f e

namespace Alike

theorem symm (h : Alike m m') : Alike m' m :=
  ⟨h.schema.symm, h.config.symm, h.entry.symm, fun f e => (h.governs f e).symm⟩

private theorem basis_eq (h : Alike m m') :
    m'.basis typeOf = { m.basis typeOf with entries := m'.entries } := by
  rw [basis, h.schema, h.config]
  rfl

theorem wants_iff (h : Alike m m') : m'.Wants e a ↔ m.Wants e a := by
  unfold Wants
  rw [h.schema]
  exact exists_congr fun f => and_congr_left fun _ => h.governs f e

end Alike

variable [PatternEngine] {table : HandlerTable} {f : FieldId} {report report' : Report}
  {installs installs' : List Install}

private theorem exists_resolveEach {c : Definition.Context} {fs : List FieldId} (known : Resolved)
    (h : ∀ f ∈ fs, ∃ gs, (resolveField c f).result = .ok gs) :
    ∃ known', (resolveEach c known fs).result = .ok known' := by
  induction fs generalizing known with
  | nil => exact ⟨known, rfl⟩
  | cons f fs ih =>
    obtain ⟨⟨gs, hgs⟩, hrest⟩ := List.forall_mem_cons.mp h
    unfold resolveEach
    split
    · exact ih known hrest
    · obtain ⟨known', hknown'⟩ := ih (known ++ [(f, gs)]) hrest
      exact ⟨known', by rw [Noted.result_andThen, hgs]; exact hknown'⟩

/-- Everything resolves if the handlers do and all fields that govern an entry. -/
theorem exists_resolve_iff :
    (∃ built, (m.resolve typeOf).result = .ok built) ↔
      ∃ table, (HandlerTable.build (m.basis typeOf)).result = .ok table ∧
        ∀ f e, m.Governs f e → ∃ gs, (resolveField ⟨m.basis typeOf, table⟩ f).result = .ok gs := by
  constructor
  · rintro ⟨⟨report, installs⟩, h⟩
    obtain ⟨table, known, htable, hknown, hall, -, -⟩ := resolve_spec h
    exact ⟨table, htable, fun f e hf => resolved_of_governs hknown hall hf⟩
  · rintro ⟨table, htable, hfields⟩
    have hsources : ∀ f ∈ m.governing.flatMap Governed.sources,
        ∃ gs, (resolveField ⟨m.basis typeOf, table⟩ f).result = .ok gs := by
      intro f hf
      obtain ⟨g, hg, hf⟩ := List.mem_flatMap.mp hf
      exact hfields f g.entry ⟨g, (mem_governing_iff.mp hg).1, rfl, hf⟩
    obtain ⟨known, hknown⟩ := exists_resolveEach [] hsources
    simp only [resolve, Noted.result_andThen, Noted.result_mapError, bind_eq_ok_iff,
      mapError_eq_ok_iff]
    exact ⟨_, table, htable, known, hknown, rfl⟩

namespace Alike

theorem handlers_eq (h : Alike m m') :
    HandlerTable.build (m'.basis typeOf) = HandlerTable.build (m.basis typeOf) := by
  rw [h.basis_eq]
  exact HandlerTable.build_congr h.entry

theorem resolveField_eq (h : Alike m m') :
    resolveField ⟨m'.basis typeOf, table⟩ = resolveField ⟨m.basis typeOf, table⟩ := by
  rw [h.basis_eq]
  exact resolveField_congr (c := ⟨m.basis typeOf, table⟩) h.entry

/-- Where one of two such managers resolves, the other does. -/
theorem exists_resolve (h : Alike m m') (hm : ∃ built, (m.resolve typeOf).result = .ok built) :
    ∃ built, (m'.resolve typeOf).result = .ok built := by
  rw [exists_resolve_iff] at hm ⊢
  rw [h.handlers_eq]
  obtain ⟨table, htable, hfields⟩ := hm
  refine ⟨table, htable, fun f e hf => ?_⟩
  rw [h.resolveField_eq]
  exact hfields f e ((h.governs f e).mp hf)

/-- Two such managers put gates on the same entries, for the same actions. -/
theorem exists_install (h : Alike m m') (hm : (m.resolve typeOf).result = .ok (report, installs))
    (hm' : (m'.resolve typeOf).result = .ok (report', installs')) :
    (∃ i ∈ installs, i.entry = e ∧ i.action = a) ↔
      ∃ i ∈ installs', i.entry = e ∧ i.action = a := by
  obtain ⟨_, _, -, hknown, hall, -, rfl⟩ := resolve_spec hm
  obtain ⟨_, _, -, hknown', hall', -, rfl⟩ := resolve_spec hm'
  rw [exists_install_iff_wants hknown hall, exists_install_iff_wants hknown' hall', h.wants_iff]

/-- The gates of an entry for an action join the same gates, and so hold together. -/
theorem holds_of_holds (h : Alike m m') (hc : m.governance.Coherent)
    (hc' : m'.governance.Coherent) (hm : (m.resolve typeOf).result = .ok (report, installs))
    (hm' : (m'.resolve typeOf).result = .ok (report', installs')) {i j : Install}
    (hi : i ∈ installs) (hj : j ∈ installs') (he : i.entry = j.entry) (ha : i.action = j.action)
    {live : Live} (hlive : i.gate.outcome live = .ok true) : j.gate.outcome live = .ok true := by
  obtain ⟨table, known, htable, hknown, hall, -, rfl⟩ := resolve_spec hm
  obtain ⟨table', known', htable', hknown', hall', -, rfl⟩ := resolve_spec hm'
  rw [h.handlers_eq] at htable'
  obtain rfl : table = table' := Except.ok.inj (htable.symm.trans htable')
  obtain ⟨gates, hgates, hmem⟩ := gate_of_mem_installs hc hknown hall hi
  obtain ⟨gates', hgates', hmem'⟩ := gate_of_mem_installs hc' hknown' hall' hj
  rw [hgates] at hlive
  rw [hgates']
  refine Requirement.check_all_eq_true_iff.mpr fun gate hgate => ?_
  obtain ⟨f, hf, gs, hgs, hin⟩ := (hmem' gate).mp hgate
  rw [← he, h.governs] at hf
  rw [h.resolveField_eq] at hgs
  rw [← ha] at hin
  exact Requirement.check_all_eq_true_iff.mp hlive gate ((hmem gate).mpr ⟨f, hf, gs, hgs, hin⟩)

end Alike

end Manager

namespace Surface

open Registration

variable {sch : Schema} {c : Config} {h h' : List Registration}

private theorem alike_of_perm {m m' : Manager} (hp : h.Perm h') (ha : Additive h)
    (ht : Tracks sch c h m) (ht' : Tracks sch c h' m')
    (htable : ∀ f fs, m.entries.entries? f = some fs ↔ .register f fs ∈ h)
    (htable' : ∀ f fs, m'.entries.entries? f = some fs ↔ .register f fs ∈ h') :
    Manager.Alike m m' where
  schema := ht'.schema.trans ht.schema.symm
  config := ht'.config.trans ht.config.symm
  entry := EntryTable.entry_congr fun f => Option.ext fun fs => by
    rw [htable, htable', hp.mem_iff]
  governs f e := by
    rw [ht.governs_iff, ht'.governs_iff, ha.holds_iff, (ha.perm hp).holds_iff]
    simp only [hp.mem_iff]

/-- A first build reports just if everything resolves. -/
theorem exists_report_iff [PatternEngine] {s : Surface} (ht : Tracks sch c h s.manager) :
    (∃ report, (s.ask .build).answer = .report report) ↔
      ∃ built, (s.manager.resolve s.entries.typeOf).result = .ok built := by
  constructor
  · rintro ⟨report, hb⟩
    exact ⟨_, (ask_build_of_report ht hb).1⟩
  · rintro ⟨built, hresolve⟩
    refine ⟨built.1, ?_⟩
    simp [ask, Manager.build, ht.state, hresolve]

/-- Managers that receive the same calls in two orders, none of which registers a field twice or
deregisters one, both build or neither does. If they build, the same entries get gates, and in no
live state are the two gates of an entry for an action opposite: one holds exactly if the other
does, and where one fails to hold the other has no verdict or the same. -/
theorem build_of_perm [PatternEngine] (sch : Schema) (c : Config) (es : Entries) (hp : h.Perm h')
    (ha : Additive h) :
    let reply := ((start sch c es).run (h.map .registration)).ask .build
    let reply' := ((start sch c es).run (h'.map .registration)).ask .build
    ((∃ report, reply.answer = .report report) ↔ ∃ report, reply'.answer = .report report) ∧
    ∀ report report', reply.answer = .report report → reply'.answer = .report report' → ∀ e a,
      ((∃ i ∈ reply.setters, i.entry = e ∧ i.action = a) ↔
        ∃ i ∈ reply'.setters, i.entry = e ∧ i.action = a) ∧
      ∀ i ∈ reply.setters, ∀ j ∈ reply'.setters, i.entry = e → i.action = a → j.entry = e →
        j.action = a → ∀ live,
          (i.gate.outcome live = .ok true ↔ j.gate.outcome live = .ok true) ∧
          (i.gate.outcome live = .ok false →
            j.gate.outcome live = .ok false ∨ ∃ error, j.gate.outcome live = .error error) ∧
          (j.gate.outcome live = .ok false →
            i.gate.outcome live = .ok false ∨ ∃ error, i.gate.outcome live = .error error) := by
  intro reply reply'
  obtain ⟨m, ht, htable, hrun⟩ := run_of_additive sch c es ha
  obtain ⟨m', ht', htable', hrun'⟩ := run_of_additive sch c es (ha.perm hp)
  have halike : m.Alike m' := alike_of_perm hp ha ht ht' htable htable'
  have hreply : reply = ask { manager := m, entries := es } .build := by rw [← hrun]
  have hreply' : reply' = ask { manager := m', entries := es } .build := by rw [← hrun']
  rw [hreply, hreply']
  constructor
  · rw [exists_report_iff ht, exists_report_iff ht']
    exact ⟨halike.exists_resolve, halike.symm.exists_resolve⟩
  · intro report report' hb hb' e a
    have hresolve := (ask_build_of_report ht hb).1
    have hresolve' := (ask_build_of_report ht' hb').1
    refine ⟨halike.exists_install hresolve hresolve', ?_⟩
    intro i hi j hj hie hia hje hja live
    have he : i.entry = j.entry := hie.trans hje.symm
    have hact : i.action = j.action := hia.trans hja.symm
    have hiff : i.gate.outcome live = .ok true ↔ j.gate.outcome live = .ok true :=
      ⟨halike.holds_of_holds ht.coherent ht'.coherent hresolve hresolve' hi hj he hact,
        halike.symm.holds_of_holds ht'.coherent ht.coherent hresolve' hresolve hj hi he.symm
          hact.symm⟩
    have hopposite {x y : Except CheckError Bool} (hxy : x = .ok true ↔ y = .ok true)
        (hx : x = .ok false) : y = .ok false ∨ ∃ error, y = .error error := by
      subst hx
      match y with
      | .error error => exact .inr ⟨error, rfl⟩
      | .ok false => exact .inl rfl
      | .ok true => cases hxy.mpr rfl
    exact ⟨hiff, hopposite hiff, hopposite hiff.symm⟩

open scoped Pattern.Engine

/-- The glow of a beacon is under the same gate if it is lent before the power is registered. -/
theorem built_beacon_either_way :
    let h : List Registration := [.register ⟨⟨0⟩, 0⟩ [⟨0⟩], .registerDeclared ⟨⟨0⟩, 1⟩ [⟨1⟩]]
    let reply := ((start .beacon {} beaconEntries).run (h.map .registration)).ask .build
    let reply' := ((start .beacon {} beaconEntries).run (h.reverse.map .registration)).ask .build
    ∃ i ∈ reply.setters, ∃ j ∈ reply'.setters, i.entry = ⟨1⟩ ∧ j.entry = ⟨1⟩ ∧
      ∀ live, i.gate.outcome live = .ok true ↔ j.gate.outcome live = .ok true := by
  intro h reply reply'
  have ha : Additive h := ⟨by simp [h], List.nodup_singleton _⟩
  obtain ⟨hreports, hbuilt⟩ :=
    build_of_perm .beacon {} beaconEntries (List.reverse_perm h).symm ha
  obtain ⟨report', hb'⟩ := hreports.mp ⟨_, rfl⟩
  obtain ⟨hinstalls, hgates⟩ := hbuilt _ report' rfl hb' ⟨1⟩ .enable
  have hi : ∃ i ∈ reply.setters, i.entry = ⟨1⟩ ∧ i.action = .enable :=
    ⟨_, List.mem_singleton_self _, rfl, rfl⟩
  obtain ⟨j, hj, hje, hja⟩ := hinstalls.mp hi
  obtain ⟨i, hi, hie, hia⟩ := hi
  exact ⟨i, hi, j, hj, hie, hje, fun live => (hgates i hi j hj hie hia hje hja live).1⟩

end Surface
end FieldGate
