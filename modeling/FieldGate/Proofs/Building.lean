import FieldGate.Proofs.Noted
import FieldGate.Proofs.Registration
import FieldGate.Proofs.SchemaIdentity

/-! What a successful build resolves and installs. Each source of a governed entry is resolved once,
and each entry gets at most one gate for an action, made of the gates of its sources. -/
namespace FieldGate.Manager

open Definition (Context)

variable {m : Manager} {g : Governed}

theorem mem_governing_iff : g ∈ m.governing ↔ g ∈ m.governed ∧ g.sources ≠ [] := by
  simp [governing]

theorem nodup_governing (hc : m.governance.Coherent) :
    (m.governing.map Governed.entry).Nodup :=
  hc.entries_nodup.sublist (List.filter_sublist.map _)

variable [PatternEngine] {c : Context} {known known' : Resolved} {f : FieldId}
  {fs : List FieldId} {gs : FieldGates} {a : Action} {typeOf : EntryId → ValueType}
  {table : HandlerTable}

/-- What is known of resolved fields is what they resolve to. -/
def Faithful (c : Context) (known : Resolved) : Prop :=
  ∀ f gs, known.lookup f = some gs → (resolveField c f).result = .ok gs

theorem Faithful.concat (hk : Faithful c known) (hgs : (resolveField c f).result = .ok gs) :
    Faithful c (known ++ [(f, gs)]) := by
  intro g gs' hg
  rw [List.lookup_append, Option.or_eq_some_iff] at hg
  rcases hg with hg | ⟨-, hg⟩
  · exact hk g gs' hg
  · obtain ⟨rfl, rfl⟩ : g = f ∧ gs' = gs := by
      by_cases hgf : g = f
      · subst hgf
        simpa using hg.symm
      · simp [List.lookup_cons, beq_false_of_ne hgf] at hg
    exact hgs

theorem faithful_nil (c : Context) : Faithful c [] := by
  intro f gs h
  cases h

/-- Resolving fields in turn forgets none and gets to know each of them. -/
theorem resolveEach_spec (h : (resolveEach c known fs).result = .ok known')
    (hk : Faithful c known) :
    Faithful c known' ∧ (∀ f, (known.lookup f).isSome → (known'.lookup f).isSome) ∧
      ∀ f ∈ fs, (known'.lookup f).isSome := by
  induction fs generalizing known with
  | nil =>
    cases h
    exact ⟨hk, fun _ => id, by simp⟩
  | cons a fs ih =>
    unfold resolveEach at h
    split at h
    · rename_i ha
      obtain ⟨hf, hkeep, hall⟩ := ih h hk
      refine ⟨hf, hkeep, ?_⟩
      intro f hmem
      rcases List.mem_cons.mp hmem with rfl | hmem
      · exact hkeep f ha
      · exact hall f hmem
    · rename_i ha
      rw [Noted.result_andThen, bind_eq_ok_iff] at h
      obtain ⟨gs, hgs, h⟩ := h
      obtain ⟨hf, hkeep, hall⟩ := ih h (hk.concat hgs)
      refine ⟨hf, fun f hs => hkeep f (by simp [List.lookup_append, hs]), ?_⟩
      intro f hmem
      rcases List.mem_cons.mp hmem with rfl | hmem
      · exact hkeep f (by simp [List.lookup_append])
      · exact hall f hmem

def Declares (c : Context) (owner : FieldId) (d : Declaration) (p : Action × Gate) : Prop :=
  p.1 = d.action ∧ ∃ defn, Definition.parse c.schema c.config.trimReferences owner d = .ok defn ∧
    (Definition.gate c defn).result = .ok p.2

private theorem action_of_parse {s : Schema} {trim : Bool} {owner : FieldId} {d : Declaration}
    {defn : Definition} (h : Definition.parse s trim owner d = .ok defn) :
    defn.action = d.action := by
  obtain ⟨clauses, -, ⟨⟩⟩ := bind_eq_ok_iff.mp h
  rfl

/-- A field resolves to one gate for each declaration, in order. -/
theorem resolveField_spec (h : (resolveField c f).result = .ok gs) {d : FieldDef}
    (hd : c.schema.field? f = some d) :
    List.Forall₂ (Declares c d.id) (c.schema.declarationsOf f) gs := by
  simp only [resolveField, hd, Noted.result_andThen, Noted.result_ofExcept, bind_eq_ok_iff,
    Noted.result_each] at h
  obtain ⟨defns, hparse, hgates⟩ := h
  rw [Definition.parseAll, mapM_eq_ok_iff] at hparse
  rw [mapM_eq_ok_iff] at hgates
  rw [Schema.declarationsOf_of_field? hd]
  generalize d.declarations = ds at hparse ⊢
  induction hparse generalizing gs with
  | nil =>
    cases hgates
    exact .nil
  | cons hp _ ih =>
    cases hgates with
    | cons hg hgates =>
      obtain ⟨gate, hgate, ⟨⟩⟩ := bind_eq_ok_iff.mp hg
      exact .cons ⟨action_of_parse hp, _, hp, hgate⟩ (ih hgates)

theorem resolveField_none (h : (resolveField c f).result = .ok gs)
    (hd : c.schema.field? f = none) : gs = [] := by
  simp only [resolveField, hd, Noted.result_ok, Except.ok.injEq] at h
  exact h.symm

/-- Each gate of a resolved field comes from a declaration. -/
theorem declares_of_resolveField (h : (resolveField c f).result = .ok gs) {p : Action × Gate}
    (hp : p ∈ gs) : ∃ owner d, Declares c owner d p := by
  cases hd : c.schema.field? f with
  | none =>
    rw [resolveField_none h hd] at hp
    cases hp
  | some d =>
    obtain ⟨declaration, -, hdeclares⟩ := exists_left_of_mem (resolveField_spec h hd) hp
    exact ⟨d.id, declaration, hdeclares⟩

/-- The gates of a resolved field are those of its declarations. -/
theorem mem_of_resolveField (hs : c.schema.Sound) (h : (resolveField c f).result = .ok gs) :
    (∀ p ∈ gs, ∃ d ∈ c.schema.declarationsOf f, Declares c f d p) ∧
      ∀ d ∈ c.schema.declarationsOf f, ∃ p ∈ gs, Declares c f d p := by
  cases hd : c.schema.field? f with
  | none => simp [resolveField_none h hd, Schema.declarationsOf, hd]
  | some d =>
    have hall := resolveField_spec h hd
    rw [hs.id_of_field? hd] at hall
    exact ⟨fun p hp => exists_left_of_mem hall hp, fun d hd => exists_right_of_mem hall hd⟩

/-- The actions of a resolved field are those of its declarations. -/
theorem actions_of_resolveField (h : (resolveField c f).result = .ok gs) :
    gs.map (·.1) = (c.schema.declarationsOf f).map (·.action) := by
  cases hd : c.schema.field? f with
  | none =>
    rw [resolveField_none h hd, Schema.declarationsOf, hd]
    rfl
  | some d =>
    have hall := resolveField_spec h hd
    clear h
    generalize c.schema.declarationsOf f = ds at hall
    induction hall with
    | nil => rfl
    | cons hp _ ih => rw [List.map_cons, List.map_cons, ih, hp.1]

/-- The gates for an action are those that the sources resolve to. -/
theorem mem_gatesFor {gate : Gate} :
    gate ∈ gatesFor known a fs ↔ ∃ f ∈ fs, ∃ gs, known.lookup f = some gs ∧ (a, gate) ∈ gs := by
  simp only [gatesFor, List.mem_flatMap, List.mem_filterMap]
  refine exists_congr fun f => and_congr_right fun _ => ?_
  cases known.lookup f with
  | none => simp
  | some gs =>
    simp only [Option.getD_some, Option.some.injEq, exists_eq_left']
    constructor
    · rintro ⟨⟨a', gate'⟩, hmem, hp⟩
      split at hp
      · rename_i ha
        cases ha
        cases hp
        exact hmem
      · cases hp
    · intro hmem
      exact ⟨(a, gate), hmem, by simp⟩

/-- An entry has a gate for an action just if one of its sources declares one. -/
theorem entryGate_isSome_iff (hk : Faithful c known)
    (hall : ∀ f ∈ g.sources, (known.lookup f).isSome) :
    (entryGate known g a).isSome ↔
      ∃ f ∈ g.sources, ∃ d ∈ c.schema.declarationsOf f, d.action = a := by
  have hsome : (entryGate known g a).isSome ↔ ∃ gate, gate ∈ gatesFor known a g.sources := by
    unfold entryGate conjoin
    cases gatesFor known a g.sources <;> simp
  rw [hsome]
  simp only [mem_gatesFor]
  constructor
  · rintro ⟨gate, f, hf, gs, hgs, hmem⟩
    have hact : a ∈ gs.map (·.1) := List.mem_map_of_mem (f := (·.1)) hmem
    rw [actions_of_resolveField (hk f gs hgs)] at hact
    exact ⟨f, hf, List.mem_map.mp hact⟩
  · rintro ⟨f, hf, d, hd, rfl⟩
    obtain ⟨gs, hgs⟩ := Option.isSome_iff_exists.mp (hall f hf)
    have hact : d.action ∈ gs.map (·.1) := by
      rw [actions_of_resolveField (hk f gs hgs)]
      exact List.mem_map_of_mem hd
    obtain ⟨⟨a, gate⟩, hmem, rfl⟩ := List.mem_map.mp hact
    exact ⟨gate, f, hf, gs, hgs, hmem⟩

def basis (m : Manager) (typeOf : EntryId → ValueType) : HandlerTable.Context :=
  { schema := m.schema, config := m.config, entries := m.entries, typeOf }

/-- A successful resolution knows all sources and installs what they resolve to. -/
theorem resolve_spec {report : Report} {installs : List Install}
    (h : (m.resolve typeOf).result = .ok (report, installs)) :
    ∃ table known, (HandlerTable.build (m.basis typeOf)).result = .ok table ∧
      Faithful ⟨m.basis typeOf, table⟩ known ∧
      (∀ g ∈ m.governing, ∀ f ∈ g.sources, (known.lookup f).isSome) ∧
      report = { handlers := table.keys, entries := m.entries.snapshot m.schema,
                 installs := m.governing.map (m.recordOf known) } ∧
      installs = m.governing.flatMap (installsOn known) := by
  simp only [resolve, Noted.result_andThen, Noted.result_mapError, bind_eq_ok_iff,
    mapError_eq_ok_iff, Noted.result_ok, Except.ok.injEq, Prod.mk.injEq] at h
  obtain ⟨table, htable, known, hknown, hreport, hinstalls⟩ := h
  obtain ⟨hf, -, hall⟩ := resolveEach_spec hknown (faithful_nil _)
  refine ⟨table, known, htable, hf, ?_, hreport.symm, hinstalls.symm⟩
  exact fun g hg f hmem => hall f (List.mem_flatMap.mpr ⟨g, hg, hmem⟩)

/-- Whether a source of an entry declares a requirement for an action. -/
def Wants (m : Manager) (e : EntryId) (a : Action) : Prop :=
  ∃ f, m.Governs f e ∧ ∃ d ∈ m.schema.declarationsOf f, d.action = a

/-- A gate is put together for an entry and an action exactly if a source wants one. -/
theorem exists_entryGate_iff_wants (hk : Faithful ⟨m.basis typeOf, table⟩ known)
    (hall : ∀ g ∈ m.governing, ∀ f ∈ g.sources, (known.lookup f).isSome) {e : EntryId} :
    (∃ g ∈ m.governing, g.entry = e ∧ (entryGate known g a).isSome) ↔ m.Wants e a := by
  constructor
  · rintro ⟨g, hg, rfl, hgate⟩
    obtain ⟨f, hf, hd⟩ := (entryGate_isSome_iff hk (hall g hg)).mp hgate
    exact ⟨f, ⟨g, (mem_governing_iff.mp hg).1, rfl, hf⟩, hd⟩
  · rintro ⟨f, ⟨g, hg, rfl, hf⟩, hd⟩
    have hgov := mem_governing_iff.mpr ⟨hg, List.ne_nil_of_mem hf⟩
    exact ⟨g, hgov, rfl, (entryGate_isSome_iff hk (hall g hgov)).mpr ⟨f, hf, hd⟩⟩

/-- An install carries the gate of a governed entry for its action. -/
theorem mem_installs_iff {known : Resolved} {i : Install} :
    i ∈ m.governing.flatMap (installsOn known) ↔
      ∃ g ∈ m.governing, g.entry = i.entry ∧ entryGate known g i.action = some i.gate := by
  obtain ⟨e, a, gate⟩ := i
  simp only [List.mem_flatMap, installsOn, List.mem_filterMap, Option.map_eq_some_iff,
    Install.mk.injEq]
  constructor
  · rintro ⟨g, hg, a', -, gate', hgate, rfl, rfl, rfl⟩
    exact ⟨g, hg, rfl, hgate⟩
  · rintro ⟨g, hg, rfl, hgate⟩
    exact ⟨g, hg, a, by cases a <;> simp, gate, hgate, rfl, rfl, rfl⟩

/-- An entry gets a gate for an action exactly if a source wants one. -/
theorem exists_install_iff_wants (hk : Faithful ⟨m.basis typeOf, table⟩ known)
    (hall : ∀ g ∈ m.governing, ∀ f ∈ g.sources, (known.lookup f).isSome) {e : EntryId} :
    (∃ i ∈ m.governing.flatMap (installsOn known), i.entry = e ∧ i.action = a) ↔ m.Wants e a := by
  rw [← exists_entryGate_iff_wants hk hall]
  constructor
  · rintro ⟨i, hi, rfl, rfl⟩
    obtain ⟨g, hg, he, hgate⟩ := mem_installs_iff.mp hi
    exact ⟨g, hg, he, Option.isSome_of_eq_some hgate⟩
  · rintro ⟨g, hg, he, hsome⟩
    obtain ⟨gate, hgate⟩ := Option.isSome_iff_exists.mp hsome
    exact ⟨⟨e, a, gate⟩, mem_installs_iff.mpr ⟨g, hg, he, hgate⟩, rfl, rfl⟩

def GateOf (c : Context) (f : FieldId) (a : Action) (gate : Gate) : Prop :=
  ∃ gs, (resolveField c f).result = .ok gs ∧ (a, gate) ∈ gs

/-- What is installed joins all gates of the fields that govern the entry, and nothing else. -/
theorem gate_of_mem_installs (hc : m.governance.Coherent) (hk : Faithful c known)
    (hall : ∀ g ∈ m.governing, ∀ f ∈ g.sources, (known.lookup f).isSome) {i : Install}
    (hi : i ∈ m.governing.flatMap (installsOn known)) :
    ∃ gates, i.gate = .all gates ∧
      ∀ gate, gate ∈ gates ↔ ∃ f, m.Governs f i.entry ∧ GateOf c f i.action gate := by
  obtain ⟨g, hg, he, hgate⟩ := mem_installs_iff.mp hi
  unfold entryGate conjoin at hgate
  split at hgate
  · cases hgate
  · refine ⟨_, (Option.some.inj hgate).symm, ?_⟩
    intro gate
    rw [mem_gatesFor]
    constructor
    · rintro ⟨f, hf, gs, hgs, hmem⟩
      exact ⟨f, ⟨g, (mem_governing_iff.mp hg).1, he, hf⟩, gs, hk f gs hgs, hmem⟩
    · rintro ⟨f, ⟨g', hg', he', hf⟩, gs, hgs, hmem⟩
      obtain rfl : g' = g :=
        hc.record_unique hg' (mem_governing_iff.mp hg).1 (he'.trans he.symm)
      obtain ⟨gs', hgs'⟩ := Option.isSome_iff_exists.mp (hall g' hg f hf)
      obtain rfl : gs = gs' := Except.ok.inj (hgs.symm.trans (hk f gs' hgs'))
      exact ⟨f, hf, gs, hgs', hmem⟩

/-- There is one gate for an entry and an action. -/
theorem gate_unique (hc : m.governance.Coherent) {i j : Install}
    (hi : i ∈ m.governing.flatMap (installsOn known))
    (hj : j ∈ m.governing.flatMap (installsOn known)) (he : i.entry = j.entry)
    (ha : i.action = j.action) : i.gate = j.gate := by
  obtain ⟨g, hg, hge, hgate⟩ := mem_installs_iff.mp hi
  obtain ⟨g', hg', hge', hgate'⟩ := mem_installs_iff.mp hj
  obtain rfl : g = g' := hc.record_unique (mem_governing_iff.mp hg).1 (mem_governing_iff.mp hg').1
    (hge.trans (he.trans hge'.symm))
  rw [ha] at hgate
  exact Option.some.inj (hgate.symm.trans hgate')

/-- Every field that governs something has been resolved. -/
theorem resolved_of_governs (hk : Faithful c known)
    (hall : ∀ g ∈ m.governing, ∀ f ∈ g.sources, (known.lookup f).isSome) {e : EntryId}
    (hf : m.Governs f e) : ∃ gs, (resolveField c f).result = .ok gs := by
  obtain ⟨g, hg, -, hmem⟩ := hf
  obtain ⟨gs, hgs⟩ := Option.isSome_iff_exists.mp
    (hall g (mem_governing_iff.mpr ⟨hg, List.ne_nil_of_mem hmem⟩) f hmem)
  exact ⟨gs, hk f gs hgs⟩

private theorem length_installsOn (known : Resolved) (g : Governed) :
    (installsOn known g).length =
      (entryGate known g .enable).isSome.toNat + (entryGate known g .display).isSome.toNat := by
  unfold installsOn
  cases he : entryGate known g .enable <;> cases hd : entryGate known g .display <;> simp [he, hd]

/-- The report counts the installs. -/
theorem length_installs (m : Manager) (known : Resolved) (gs : List Governed) :
    (gs.flatMap (installsOn known)).length =
      (gs.map (m.recordOf known)).foldr (fun i n => i.enable.toNat + i.display.toNat + n) 0 := by
  induction gs with
  | nil => rfl
  | cons g gs ih =>
    rw [List.flatMap_cons, List.length_append, length_installsOn, ih]
    rfl

private theorem countP_installsOn (known : Resolved) (g : Governed) (e : EntryId) (a : Action) :
    (installsOn known g).countP (fun i => i.entry = e ∧ i.action = a) =
      if g.entry = e ∧ (entryGate known g a).isSome then 1 else 0 := by
  unfold installsOn
  by_cases hg : g.entry = e <;> cases a <;> cases he : entryGate known g .enable <;>
    cases hd : entryGate known g .display <;> simp [hg, he, hd]

/-- An entry with at most one record gets at most one gate for an action. -/
theorem countP_installs {gs : List Governed} (hn : (gs.map Governed.entry).Nodup)
    (known : Resolved) (e : EntryId) (a : Action) :
    (gs.flatMap (installsOn known)).countP (fun i => i.entry = e ∧ i.action = a) =
      if ∃ g ∈ gs, g.entry = e ∧ (entryGate known g a).isSome then 1 else 0 := by
  induction gs with
  | nil => simp
  | cons g gs ih =>
    rw [List.map_cons, List.nodup_cons] at hn
    rw [List.flatMap_cons, List.countP_append, ih hn.2, countP_installsOn]
    by_cases hg : g.entry = e ∧ (entryGate known g a).isSome
    · have hrest : ¬ ∃ g' ∈ gs, g'.entry = e ∧ (entryGate known g' a).isSome := by
        rintro ⟨g', hg', he, -⟩
        exact hn.1 (List.mem_map.mpr ⟨g', hg', he.trans hg.1.symm⟩)
      rw [if_pos hg, if_neg hrest, if_pos ⟨g, List.mem_cons_self, hg⟩]
    · simp [hg]

end FieldGate.Manager
