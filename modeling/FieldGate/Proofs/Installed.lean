import FieldGate.Handler.Builtin
import FieldGate.Pattern.Engine
import FieldGate.Proofs.Meaning
import FieldGate.Proofs.Surface

/-! What a build leaves on the entries: for each action a gate that joins the declarations of all
fields that govern the entry, and means what they mean together. -/
namespace FieldGate

namespace Entries

variable [PatternEngine] {es : Entries} {is : List Install} {e : EntryId} {a : Action}
  {g : Gate} {x : Entry}

private theorem get?_install (es : Entries) (i : Install) (e : EntryId) :
    (es.install i).get? e = if i.entry = e then
      (es.get? e).map (fun x => x.install i.action (some i.gate)) else es.get? e := by
  unfold Entries.install Entries.modify Entries.get?
  split
  · rename_i h
    rw [← h, List.getElem?_modify_eq]
    rfl
  · rename_i h
    refine List.getElem?_modify_ne _ _ fun hi => h ?_
    exact congrArg EntryId.mk hi

private theorem gate?_install (x : Entry) (b : Action) (g : Option Gate) :
    (x.install b g).gate? a = if b = a then g else x.gate? a := by
  cases a <;> cases b <;> rfl

/-- An entry has the gate that was put on it for an action, if all that were put there are one. -/
theorem gate?_installAll (hu : ∀ i ∈ is, i.entry = e → i.action = a → i.gate = g)
    (hi : ∃ i ∈ is, i.entry = e ∧ i.action = a) (hx : (es.installAll is).get? e = some x) :
    x.gate? a = some g := by
  induction is using List.reverseRecOn generalizing x with
  | nil => simp at hi
  | append_singleton is j ih =>
    rw [installAll, List.foldl_append, List.foldl_cons, List.foldl_nil, get?_install] at hx
    have hrest (hj : ¬ (j.entry = e ∧ j.action = a)) : ∃ i ∈ is, i.entry = e ∧ i.action = a := by
      obtain ⟨i, hmem, he⟩ := hi
      rcases List.mem_append.mp hmem with hmem | hmem
      · exact ⟨i, hmem, he⟩
      · exact absurd (List.mem_singleton.mp hmem ▸ he) hj
    have hu' : ∀ i ∈ is, i.entry = e → i.action = a → i.gate = g :=
      fun i hi => hu i (List.mem_append_left _ hi)
    split at hx
    · rename_i he
      obtain ⟨y, hy, rfl⟩ := Option.map_eq_some_iff.mp hx
      rw [gate?_install]
      split
      · rename_i ha
        rw [hu j (List.mem_append_right _ (List.mem_singleton_self j)) he ha]
      · rename_i ha
        exact ih hu' (hrest fun h => ha h.2) hy
    · rename_i he
      exact ih hu' (hrest fun h => he h.1) hx

end Entries

namespace Manager

open Definition (Context)

variable [PatternEngine] {c : Context} {f : FieldId} {gs : FieldGates} {a : Action} {live : Live}

/-- Gates of the declarations of some fields, joined together, decide whether all of these
declarations hold. -/
theorem decides_joined {F : FieldId → Prop} {gates : List Gate} (hs : c.schema.Sound)
    (htable : (HandlerTable.build c.toContext).result = .ok c.handlers)
    (hres : ∀ f, F f → ∃ gs, (resolveField c f).result = .ok gs)
    (hmem : ∀ gate, gate ∈ gates ↔ ∃ f, F f ∧ GateOf c f a gate)
    (ha : ∀ f, F f → ∀ d ∈ c.schema.declarationsOf f, d.action = a →
      ∀ m ∈ d.members, c.setting.Answered live f.owner m) :
    Requirement.Decides (Question.answer live) (.all gates)
      (∀ f, F f → ∀ d ∈ c.schema.declarationsOf f, d.action = a →
        d.quantifier.Over (c.setting.Satisfied live f.owner) d.members) := by
  have hgate {f : FieldId} {d : Declaration} {p : Action × Gate} (hf : F f)
      (hd : d ∈ c.schema.declarationsOf f) (hact : d.action = a) (hp : Declares c f d p) :
      Requirement.Decides (Question.answer live) p.2
        (d.quantifier.Over (c.setting.Satisfied live f.owner) d.members) := by
    obtain ⟨-, defn, hparse, hg⟩ := hp
    exact Definition.decides_gate hs htable hparse hg (ha f hf d hd hact)
  have hof (gate : Gate) (hg : gate ∈ gates) : ∃ f d, F f ∧ d ∈ c.schema.declarationsOf f ∧
      d.action = a ∧ Declares c f d (a, gate) := by
    obtain ⟨f, hf, gs, hgs, hin⟩ := (hmem gate).mp hg
    obtain ⟨d, hd, hp⟩ := (mem_of_resolveField hs hgs).1 _ hin
    exact ⟨f, d, hf, hd, hp.1.symm, hp⟩
  obtain ⟨b, hb, hiff⟩ := Requirement.decides_all fun gate hg => by
    obtain ⟨f, d, hf, hd, hact, hp⟩ := hof gate hg
    exact ⟨_, hgate hf hd hact hp⟩
  refine ⟨b, hb, hiff.trans ⟨?_, ?_⟩⟩
  · intro h f hf d hd hact
    obtain ⟨gs, hgs⟩ := hres f hf
    obtain ⟨⟨a', gate⟩, hin, hp⟩ := (mem_of_resolveField hs hgs).2 d hd
    obtain rfl : a' = a := hp.1.trans hact
    exact (hgate hf hd hact hp).outcome_iff.mp (h gate ((hmem gate).mpr ⟨f, hf, gs, hgs, hin⟩))
  · intro h gate hg
    obtain ⟨f, d, hf, hd, hact, hp⟩ := hof gate hg
    exact (hgate hf hd hact hp).outcome_iff.mpr (h f hf d hd hact)

end Manager

namespace Surface

/-- A history leaves a declaration for an action in force on an entry. -/
def InForce (s : Schema) (h : List Registration) (e : EntryId) (a : Action) (f : FieldId)
    (d : Declaration) : Prop :=
  Registration.Holds h f e ∧ d ∈ s.declarationsOf f ∧ d.action = a

variable {s : Schema} {c : Config} {h : List Registration} {m : Manager}

/-- Declarations in force are those of the fields that govern the entry. -/
theorem inForce_iff (ht : Registration.Tracks s c h m) {e : EntryId} {a : Action}
    {f : FieldId} {d : Declaration} :
    InForce s h e a f d ↔ m.Governs f e ∧ d ∈ m.schema.declarationsOf f ∧ d.action = a := by
  rw [ht.governs_iff, ht.schema]
  constructor
  · rintro ⟨hh, hd, ha⟩
    exact ⟨⟨List.ne_nil_of_mem hd, hh⟩, hd, ha⟩
  · rintro ⟨⟨-, hh⟩, hd, ha⟩
    exact ⟨hh, hd, ha⟩

private theorem setting_basis (ht : Registration.Tracks s c h m) (typeOf : EntryId → ValueType) :
    (m.basis typeOf).setting =
      { schema := s, config := c, registered := (Registration.listed · h), typeOf } := by
  rw [HandlerTable.Context.setting, Manager.basis, ht.schema, ht.config,
    show m.entries.entries = _ from funext ht.table]

/-- After any history and a build that reports, an entry got a gate for an action exactly if a
declaration for it is in force; the entry then carries this gate, and in every live state in which
all targets of these declarations have verdicts the gate has one, which is that the quantifier of
each of the declarations is met by its clauses. -/
theorem installed_gate_meaning [PatternEngine] (hs : s.Buildable) (c : Config) (es : Entries)
    (h : List Registration) {report : Report}
    (hb : (((start s c es).run (h.map .registration)).ask .build).answer = .report report)
    (e : EntryId) (a : Action) :
    let reply := ((start s c es).run (h.map .registration)).ask .build
    let st : Setting :=
      { schema := s, config := c, registered := (Registration.listed · h), typeOf := es.typeOf }
    ((∃ i ∈ reply.setters, i.entry = e ∧ i.action = a) ↔ ∃ f d, InForce s h e a f d) ∧
    ∀ i ∈ reply.setters, i.entry = e → i.action = a →
      (∀ x, reply.surface.entries.get? e = some x → x.gate? a = some i.gate) ∧
      ∀ live, (∀ f d, InForce s h e a f d → ∀ m ∈ d.members, st.Answered live f.owner m) →
        ∃ b, i.gate.outcome live = .ok b ∧
          (b = true ↔ ∀ f d, InForce s h e a f d →
            d.quantifier.Over (st.Satisfied live f.owner) d.members) := by
  intro reply st
  obtain ⟨m, ht, hrun⟩ := run_registrations s c es h
  have hreply : reply = ask { manager := m, entries := es } .build := by rw [← hrun]
  rw [hrun] at hb
  obtain ⟨hresolve, hentries⟩ := ask_build_of_report ht hb
  rw [← hreply] at hresolve hentries
  obtain ⟨table, known, htable, hknown, hall, -, hsetters⟩ := Manager.resolve_spec hresolve
  have hst : (m.basis es.typeOf).setting = st := setting_basis ht es.typeOf
  have hs : m.schema.Sound := ht.schema ▸ hs.sound
  simp only [inForce_iff ht]
  rw [hsetters]
  constructor
  · rw [Manager.exists_install_iff_wants hknown hall]
    exact ⟨fun ⟨f, hf, d, hd, ha⟩ => ⟨f, d, hf, hd, ha⟩,
      fun ⟨f, d, hf, hd, ha⟩ => ⟨f, hf, d, hd, ha⟩⟩
  · rintro i hi rfl rfl
    constructor
    · intro x hx
      rw [hentries, hsetters] at hx
      exact Entries.gate?_installAll
        (fun j hj he ha => Manager.gate_unique ht.coherent hj hi he ha) ⟨i, hi, rfl, rfl⟩ hx
    · -- the gate joins those of the declarations in force, each of which means what it says
      intro live hanswered
      obtain ⟨gates, hgate, hmem⟩ := Manager.gate_of_mem_installs ht.coherent hknown hall hi
      rw [← hst] at hanswered ⊢
      obtain ⟨b, hb, hiff⟩ := Manager.decides_joined (F := (m.Governs · i.entry)) hs htable
        (fun f hf => Manager.resolved_of_governs hknown hall hf) hmem
        (fun f hf d hd ha => hanswered f d ⟨hf, hd, ha⟩)
      refine ⟨b, by rw [hgate]; exact hb, hiff.trans ?_⟩
      exact ⟨fun hall f d ⟨hf, hd, ha⟩ => hall f hf d hd ha,
        fun hall f hf d hd ha => hall f d ⟨hf, hd, ha⟩⟩

end Surface

namespace Schema

/-- A beacon whose glow can be switched while either its power is on or a handler finds it off. -/
def beacon : Schema where
  types :=
    [{ id := ⟨0⟩, package := "", simpleName := "Beacon", enclosing := none
       qualifiedName := "Beacon"
       fields :=
         [{ id := ⟨⟨0⟩, 0⟩, name := "power", type := .bool },
          { id := ⟨⟨0⟩, 1⟩, name := "glow", type := .bool
            declarations := [.group .enable .one [.on "power", .on "#isOff"]] }]
       methods :=
         [{ id := ⟨⟨0⟩, 0⟩, name := "isOff", signature := .predicate [.exact .bool]
            handler := some ⟨["power"], Builtin.isFalse⟩ }] }]
  handlerTypes := [⟨0⟩]

theorem buildable_beacon : beacon.Buildable := by
  have h₁ := Buildable.empty.rootType
    (show addRootType {} "" "Beacon" = .ok (_, _) from rfl)
  have h₂ := h₁.field (show addField _ ⟨0⟩ "power" .bool = .ok (_, _) from rfl)
  have h₃ := h₂.field (show addField _ ⟨0⟩ "glow" .bool = .ok (_, _) from rfl)
  have h₄ := h₃.handler (show addHandler _ ⟨0⟩ "isOff" (.predicate [.exact .bool])
    ⟨["power"], Builtin.isFalse⟩ = .ok (_, _) from rfl)
  exact h₄.require (show Schema.require _ ⟨⟨0⟩, 1⟩
    (.group .enable .one [.on "power", .on "#isOff"]) = .ok _ from rfl)

private theorem declared_beacon {f : FieldId} {d : Declaration} (hd : d ∈ beacon.declarationsOf f) :
    f = ⟨⟨0⟩, 1⟩ ∧ d = .group .enable .one [.on "power", .on "#isOff"] := by
  obtain ⟨⟨_ | i⟩, _ | _ | j⟩ := f <;>
    simp_all [declarationsOf, field?, type?, beacon]

end Schema

namespace Surface

open scoped Pattern.Engine

def beaconEntries : Entries :=
  ⟨[{ type := .bool, value := .bool false }, { type := .bool, value := .bool true }]⟩

/-- The gate on the glow of a beacon wants one of its two clauses, a field and a handler. -/
theorem installed_on_glow :
    let h : List Registration :=
      [.register ⟨⟨0⟩, 0⟩ [⟨0⟩], .registerDeclared ⟨⟨0⟩, 1⟩ [⟨1⟩]]
    let st : Setting := { schema := .beacon, config := {}, registered := (Registration.listed · h)
                          typeOf := beaconEntries.typeOf }
    let live : Live := fun e => (beaconEntries.get? e).map Entry.value
    ∃ i ∈ (((start .beacon {} beaconEntries).run (h.map .registration)).ask .build).setters,
      i.entry = ⟨1⟩ ∧ i.action = .enable ∧ ∃ b, i.gate.outcome live = .ok b ∧
        (b = true ↔ Quantifier.one.Over (st.Satisfied live ⟨0⟩) [.on "power", .on "#isOff"]) := by
  intro h st live
  obtain ⟨hiff, hmeaning⟩ :=
    installed_gate_meaning Schema.buildable_beacon {} beaconEntries h rfl ⟨1⟩ .enable
  have hforce : InForce .beacon h ⟨1⟩ .enable ⟨⟨0⟩, 1⟩
      (.group .enable .one [.on "power", .on "#isOff"]) :=
    ⟨⟨[.register ⟨⟨0⟩, 0⟩ [⟨0⟩]], _, [], rfl, ⟨rfl, List.mem_singleton_self _⟩, by simp⟩,
      List.mem_singleton_self _, rfl⟩
  obtain ⟨i, hi, he, ha⟩ := hiff.mpr ⟨_, _, hforce⟩
  obtain ⟨b, hb, hverdict⟩ := (hmeaning i hi he ha).2 live (by
    intro f d hf m hm text ht
    obtain ⟨rfl, rfl⟩ := Schema.declared_beacon hf.2.1
    simp only [Declaration.group, List.mem_cons, List.not_mem_nil, or_false] at hm
    rcases hm with rfl | rfl
    · obtain rfl := List.mem_singleton.mp ht
      exact ⟨false, .field rfl rfl rfl rfl rfl rfl⟩
    · obtain rfl := List.mem_singleton.mp ht
      exact ⟨true, .handler rfl (by decide) rfl rfl (.cons ⟨_, rfl, rfl⟩ .nil) .nil rfl
        (.cons rfl .nil) rfl⟩)
  refine ⟨i, hi, he, ha, b, hb, hverdict.trans ⟨fun hall => hall _ _ hforce, ?_⟩⟩
  intro hover f d hf
  obtain ⟨rfl, rfl⟩ := Schema.declared_beacon hf.2.1
  exact hover

end Surface
end FieldGate
