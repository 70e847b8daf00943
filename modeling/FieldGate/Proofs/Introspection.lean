import FieldGate.Proofs.Installed

/-! What a summary shows of the registrations so far, and that a build reports the same: the counts
of the registered fields, the number of governed entries, the fields that govern them, and the
setters that are called. -/
namespace FieldGate

def InstallRecord.flag (r : InstallRecord) : Action → Bool
  | .enable => r.enable
  | .display => r.display

section Names

variable {names : List String} {a b : String}

private theorem loop_eq (a : String) (names acc : List String) :
    List.eraseRepsBy.loop (· == ·) a names acc =
      acc.reverse ++ List.eraseRepsBy.loop (· == ·) a names [] := by
  induction names generalizing a acc with
  | nil => simp [List.eraseRepsBy.loop]
  | cons b names ih =>
    unfold List.eraseRepsBy.loop
    split
    · exact ih a acc
    · rw [ih b (a :: acc), ih b [a]]
      simp

private theorem eraseReps_cons_cons (a b : String) (names : List String) :
    (a :: b :: names).eraseReps =
      if a = b then (b :: names).eraseReps else a :: (b :: names).eraseReps := by
  change List.eraseRepsBy.loop (· == ·) a (b :: names) [] = _
  unfold List.eraseRepsBy.loop
  split_ifs with hab
  · subst hab
    rw [beq_self_eq_true]
    rfl
  · rw [beq_false_of_ne hab]
    exact loop_eq b names [a]

private theorem eraseReps_spec (h : names.Pairwise (· ≤ ·)) :
    names.eraseReps.Pairwise (· < ·) ∧ ∀ n, n ∈ names.eraseReps ↔ n ∈ names := by
  induction names with
  | nil => exact ⟨.nil, fun _ => Iff.rfl⟩
  | cons a names ih =>
    obtain ⟨hfirst, hrest⟩ := List.pairwise_cons.mp h
    obtain ⟨hpairwise, hmem⟩ := ih hrest
    cases names with
    | nil => exact ⟨List.pairwise_singleton _ _, fun _ => Iff.rfl⟩
    | cons b names =>
      rw [eraseReps_cons_cons]
      split_ifs with hab
      · subst hab
        exact ⟨hpairwise, fun n => by simp [hmem]⟩
      · have hlt : a < b := Std.lt_of_le_of_ne (hfirst b List.mem_cons_self) hab
        refine ⟨List.pairwise_cons.mpr ⟨fun n hn => ?_, hpairwise⟩, fun n => ?_⟩
        · rcases List.mem_cons.mp ((hmem n).mp hn) with rfl | hn
          · exact hlt
          · exact Std.lt_of_lt_of_le hlt ((List.pairwise_cons.mp hrest).1 n hn)
        · rw [List.mem_cons, List.mem_cons, hmem]

/-- Names are put in order, each once. -/
theorem Manager.sortedNames_spec (names : List String) :
    (sortedNames names).Pairwise (· < ·) ∧ ∀ n, n ∈ sortedNames names ↔ n ∈ names := by
  have hsorted : (names.mergeSort fun a b => a ≤ b).Pairwise (· ≤ ·) := by
    refine (List.pairwise_mergeSort ?_ ?_ names).imp of_decide_eq_true
    · intro a b c hab hbc
      exact decide_eq_true (String.le_trans (of_decide_eq_true hab) (of_decide_eq_true hbc))
    · intro a b
      simpa using String.le_total a b
  obtain ⟨hpairwise, hmem⟩ := eraseReps_spec hsorted
  exact ⟨hpairwise, fun n => (hmem n).trans List.mem_mergeSort⟩

end Names

namespace Registration

variable {m : Manager} {s : Schema} {c : Config} {h : List Registration} {r : Registration}
  {f : FieldId} {es : List EntryId}

/-- A field was registered with entries, and no later call freed them. -/
def LastListed (h : List Registration) (f : FieldId) (es : List EntryId) : Prop :=
  ∃ before after, h = before ++ .register f es :: after ∧ ∀ r ∈ after, ¬ r.Frees f

theorem lastListed_concat :
    LastListed (h ++ [r]) f es ↔ r = .register f es ∨ LastListed h f es ∧ ¬ r.Frees f := by
  constructor
  · rintro ⟨before, after, heq, hkeep⟩
    rcases List.eq_nil_or_concat after with rfl | ⟨after, r', rfl⟩
    · obtain ⟨-, hr⟩ := List.append_inj' heq rfl
      exact .inl (List.singleton_inj.mp hr)
    · rw [List.concat_eq_append] at heq hkeep
      rw [← List.cons_append, ← List.append_assoc] at heq
      obtain ⟨rfl, hr⟩ := List.append_inj' heq rfl
      obtain rfl := List.singleton_inj.mp hr
      obtain ⟨hafter, hlast⟩ := List.forall_mem_append.mp hkeep
      exact .inr ⟨⟨before, after, rfl, hafter⟩, hlast r (List.mem_singleton_self r)⟩
  · rintro (rfl | ⟨⟨before, after, rfl, hkeep⟩, hlast⟩)
    · exact ⟨h, [], rfl, by simp⟩
    · refine ⟨before, after ++ [r], by simp, List.forall_mem_append.mpr ⟨hkeep, ?_⟩⟩
      exact List.forall_mem_singleton.mpr hlast

/-- The table has each registered field once, with the entries of its last registration. -/
theorem table_of_run (hm : run { schema := s, config := c } h = .ok m) :
    m.entries.Keyed ∧ ∀ f es, m.entries.entries? f = some es ↔ LastListed h f es := by
  induction h using List.reverseRecOn generalizing m with
  | nil =>
    cases hm
    refine ⟨EntryTable.keyed_empty, fun f es => iff_of_false (by simp [EntryTable.entries?]) ?_⟩
    rintro ⟨before, after, heq, -⟩
    simp at heq
  | append_singleton h r ih =>
    rw [run_concat] at hm
    obtain ⟨m₁, hm₁, hr⟩ := bind_eq_ok_iff.mp hm
    obtain ⟨hkeyed, hlisted⟩ := ih hm₁
    simp only [lastListed_concat, ← hlisted, (apply_spec hr).2]
    cases r with
    | register g es' =>
      refine ⟨hkeyed.register g _, fun f es => ?_⟩
      rw [retable, EntryTable.entries?_register]
      by_cases hf : f = g
      · subst hf
        simp [Frees]
      · simp [Frees, hf, Ne.symm hf]
    | registerDeclared g es' => exact ⟨hkeyed, fun f es => by simp [retable, Frees]⟩
    | deregister g =>
      refine ⟨hkeyed.register g _, fun f es => ?_⟩
      rw [retable, EntryTable.entries?_register]
      by_cases hf : f = g
      · subst hf
        simp [Frees]
      · simp [Frees, hf, Ne.symm hf]

end Registration

namespace Surface

variable {s : Schema} {c : Config} {h : List Registration} {m : Manager}

/-- A snapshot counts what a history leaves registered: it has one name for each field, which no
other field has, with the number of entries that the field was registered with last. -/
structure Counts (s : Schema) (h : List Registration) (counts : Snapshot) : Prop where
  ordered : (counts.map Prod.fst).Pairwise (· < ·)
  mem_iff : ∀ name n, (name, n) ∈ counts ↔
    ∃ f es, Registration.LastListed h f es ∧ s.fieldKey f = name ∧ es.length = n
  key_inj : ∀ f g es es', Registration.LastListed h f es → Registration.LastListed h g es' →
    s.fieldKey f = s.fieldKey g → f = g

private theorem counts_of_run (hs : s.Buildable)
    (hh : ∀ f es, .register f es ∈ h → (s.field? f).isSome)
    (hm : Registration.run { schema := s, config := c } h = .ok m) :
    Counts s h (m.entries.snapshot s) := by
  obtain ⟨hkeyed, hlisted⟩ := Registration.table_of_run hm
  have hinj (f g : FieldId) (es es' : List EntryId) (hf : Registration.LastListed h f es)
      (hg : Registration.LastListed h g es') (heq : s.fieldKey f = s.fieldKey g) : f = g := by
    obtain ⟨before, after, hsplit, -⟩ := hg
    obtain ⟨d, hd⟩ := Option.isSome_iff_exists.mp (hh g es' (by simp [hsplit]))
    exact hs.sound.fieldKey_inj hd heq
  have hnames : (m.entries.fields.map fun p => s.fieldKey p.1).Nodup := by
    rw [show (fun p : FieldId × List EntryId => s.fieldKey p.1) = s.fieldKey ∘ Prod.fst from rfl,
      ← List.map_map]
    refine List.Nodup.map_on ?_ hkeyed
    intro f hf g hg heq
    obtain ⟨⟨f, es⟩, hfes, rfl⟩ := List.mem_map.mp hf
    obtain ⟨⟨g, es'⟩, hges, rfl⟩ := List.mem_map.mp hg
    rw [hkeyed.mem_fields_iff, hlisted] at hfes hges
    exact hinj f g es es' hfes hges heq
  refine ⟨List.pairwise_map.mpr (EntryTable.ordered_snapshot _ _), fun name n => ?_, hinj⟩
  rw [EntryTable.mem_snapshot_iff hnames]
  simp only [Prod.exists, hkeyed.mem_fields_iff, hlisted, Prod.mk.injEq, eq_comm]

section Engine

variable [PatternEngine]

/-- A report and the setters called agree with the summary of the manager before the build. There is
a record for each governed entry, which names its sources and flags an action just if its setter was
called. -/
structure Agrees (m : Manager) (summary : Summary) (report : Report) (setters : List Install) :
    Prop where
  entries_eq : report.entries = summary.entries
  length_eq : report.installs.length = summary.governedEntries
  sources_ordered : summary.sourceFields.Pairwise (· < ·)
  mem_sources_iff : ∀ name, name ∈ summary.sourceFields ↔ ∃ r ∈ report.installs, name ∈ r.sources
  records : List.Forall₂ (fun g r => r.sources = g.sources.map m.schema.fieldKey ∧
    ∀ a, setters.countP (fun i => i.entry = g.entry ∧ i.action = a) = (r.flag a).toNat)
    m.governing report.installs

private theorem mem_sources_iff (m : Manager) (known : Manager.Resolved) (name : String) :
    name ∈ (m.governed.flatMap Governed.sources).map m.schema.fieldKey ↔
      ∃ r ∈ m.governing.map (m.recordOf known), name ∈ r.sources := by
  constructor
  · intro hname
    obtain ⟨f, hf, rfl⟩ := List.mem_map.mp hname
    obtain ⟨g, hg, hf⟩ := List.mem_flatMap.mp hf
    have hgoverning := Manager.mem_governing_iff.mpr ⟨hg, List.ne_nil_of_mem hf⟩
    exact ⟨_, List.mem_map_of_mem hgoverning, List.mem_map_of_mem hf⟩
  · rintro ⟨r, hr, hname⟩
    obtain ⟨g, hg, rfl⟩ := List.mem_map.mp hr
    obtain ⟨f, hf, rfl⟩ := List.mem_map.mp hname
    refine List.mem_map_of_mem (List.mem_flatMap.mpr ⟨g, ?_, hf⟩)
    exact (Manager.mem_governing_iff.mp hg).1

private theorem countP_eq_flag (hc : m.governance.Coherent) (known : Manager.Resolved)
    {g : Governed} (hg : g ∈ m.governing) (a : Action) :
    (m.governing.flatMap (Manager.installsOn known)).countP
        (fun i => i.entry = g.entry ∧ i.action = a) = ((m.recordOf known g).flag a).toNat := by
  -- the entry of a record has no other record
  have hgate : (∃ g' ∈ m.governing, g'.entry = g.entry ∧
      (Manager.entryGate known g' a).isSome) ↔ (Manager.entryGate known g a).isSome := by
    constructor
    · rintro ⟨g', hg', he, hsome⟩
      obtain rfl := hc.record_unique (Manager.mem_governing_iff.mp hg').1
        (Manager.mem_governing_iff.mp hg).1 he
      exact hsome
    · exact fun hsome => ⟨g, hg, rfl, hsome⟩
  have hflag : (m.recordOf known g).flag a = (Manager.entryGate known g a).isSome := by
    cases a <;> rfl
  rw [Manager.countP_installs (Manager.nodup_governing hc), hflag]
  simp only [hgate]
  cases (Manager.entryGate known g a).isSome <;> rfl

private theorem agrees_of_resolve (hc : m.governance.Coherent) {typeOf : EntryId → ValueType}
    {report : Report} {installs : List Install}
    (hr : (m.resolve typeOf).result = .ok (report, installs)) :
    Agrees m m.summary report installs := by
  obtain ⟨table, known, -, -, -, rfl, rfl⟩ := Manager.resolve_spec hr
  obtain ⟨hordered, hmem⟩ := Manager.sortedNames_spec
    ((m.governed.flatMap Governed.sources).map m.schema.fieldKey)
  refine ⟨rfl, List.length_map _, hordered,
    fun name => (hmem name).trans (mem_sources_iff m known name), ?_⟩
  exact List.forall₂_map_right_iff.mpr
    (List.forall₂_same.mpr fun g hg => ⟨rfl, countP_eq_flag hc known hg⟩)

/-- After any history that registers fields of the schema only, the summary counts what the history
leaves registered, and a build that reports agrees with the summary. -/
theorem summary_agrees (hs : s.Buildable) (c : Config) (es : Entries) (h : List Registration)
    (hh : ∀ f es, .register f es ∈ h → (s.field? f).isSome) :
    let now := (start s c es).run (h.map .registration)
    ∃ summary, (now.ask .summary).answer = .summary summary ∧ Counts s h summary.entries ∧
      ∀ report, (now.ask .build).answer = .report report →
        Agrees now.manager summary report (now.ask .build).setters := by
  intro now
  obtain ⟨m, hm, ht⟩ := Registration.tracks_run s c h
  have hnow : now = { manager := m, entries := es } := run_of_registered hm
  rw [hnow]
  refine ⟨m.summary, rfl, ?_, fun report hreport => ?_⟩
  · rw [Manager.summary, ht.schema]
    exact counts_of_run hs hh hm
  · exact agrees_of_resolve ht.coherent (ask_build_of_report ht hreport).1

end Engine

open scoped Pattern.Engine

/-- Of the two registrations of a power the last one counts, and the glow, which governs two
entries, is a source of two records. -/
theorem summary_of_beacons :
    let h : List Registration :=
      [.register ⟨⟨0⟩, 0⟩ [⟨1⟩, ⟨2⟩], .registerDeclared ⟨⟨0⟩, 1⟩ [⟨1⟩, ⟨2⟩],
       .register ⟨⟨0⟩, 0⟩ [⟨0⟩]]
    let now := (start .beacon {} ⟨[]⟩).run (h.map .registration)
    ∃ summary report, (now.ask .summary).answer = .summary summary ∧
      (now.ask .build).answer = .report report ∧ Counts .beacon h summary.entries ∧
      Agrees now.manager summary report (now.ask .build).setters := by
  intro h now
  obtain ⟨summary, hsummary, hcounts, hagrees⟩ :=
    summary_agrees Schema.buildable_beacon {} ⟨[]⟩ h (by
      intro f es hmem
      simp only [h, List.mem_cons, List.not_mem_nil, or_false, Registration.register.injEq,
        reduceCtorEq, false_or] at hmem
      rcases hmem with ⟨rfl, -⟩ | ⟨rfl, -⟩ <;> rfl)
  exact ⟨summary, _, hsummary, rfl, hcounts, hagrees _ rfl⟩

end Surface

end FieldGate
