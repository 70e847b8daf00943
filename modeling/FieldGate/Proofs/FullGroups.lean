import FieldGate.Proofs.Assembly
import FieldGate.Proofs.Installed
import FieldGate.Proofs.ShortCircuit

/-! Groups with members. What a build installs has no group that stands for nothing or for its one
member, at any depth, so each of its parts owes its verdict to questions. -/
namespace FieldGate

namespace Requirement

variable {α ε : Type} {r s : Requirement α} {q : Quantifier} {rs : List (Requirement α)}
  {answer : α → Except ε Bool}

/-- A requirement is a part of itself, and what is a part of a member is a part of the group. -/
inductive PartOf (s : Requirement α) : Requirement α → Prop
  | self : PartOf s s
  | member {r : Requirement α} {q : Quantifier} {rs : List (Requirement α)} (hr : r ∈ rs)
      (h : PartOf s r) : PartOf s (group q rs)

/-- Every group has members, and two of them at least unless it denies what its one member says. -/
inductive Compact : Requirement α → Prop
  | leaf (a : α) : Compact (leaf a)
  | group {q : Quantifier} {rs : List (Requirement α)} (hne : rs ≠ [])
      (htwo : q ≠ .none → 2 ≤ rs.length) (hrs : ∀ r ∈ rs, Compact r) : Compact (group q rs)

theorem Compact.part (h : r.Compact) (hs : s.PartOf r) : s.Compact := by
  induction hs with
  | self => exact h
  | member hr _ ih =>
    cases h with
    | group _ _ hrs => exact ih (hrs _ hr)

/-- One member alone is put in a group only to be denied. -/
theorem compact_combine (q : Quantifier) (hne : rs ≠ []) (hrs : ∀ r ∈ rs, r.Compact) :
    (combine q rs).Compact := by
  unfold combine
  split
  · rename_i r
    split
    · exact hrs r (List.mem_singleton_self r)
    · rename_i hq
      refine .group hne (fun hnone => ?_) hrs
      cases q with
      | none => exact absurd rfl hnone
      | all | any | one => exact absurd rfl hq
  · rename_i hone
    refine .group hne (fun _ => ?_) hrs
    match rs with
    | [] => exact absurd rfl hne
    | [r] => exact absurd rfl (hone r)
    | _ :: _ :: _ => simp

/-- The first leaf is asked, whatever the answers are. -/
theorem Compact.exists_asked (h : r.Compact) : ∃ a, a ∈ (check answer r).asked := by
  induction h with
  | leaf a => exact ⟨a, List.mem_singleton_self a⟩
  | @group q rs hne _ _ ih =>
    obtain ⟨r, rest, rfl⟩ := List.exists_cons_of_ne_nil hne
    obtain ⟨a, ha⟩ := ih r List.mem_cons_self
    refine ⟨a, ?_⟩
    rw [check_group, checkEach_cons]
    exact Checked.mem_andThen_of_mem ha

end Requirement

namespace Definition

variable [PatternEngine] {c : Context} {g : Gate}

/-- The gate of a target is a question. -/
theorem exists_leaf_of_targetGate {owner : String} {clause : Clause} {r : Reference}
    (htable : (HandlerTable.build c.toContext).result = .ok c.handlers)
    (hg : (targetGate c owner clause r).result = .ok g) : ∃ question, g = .leaf question := by
  unfold targetGate at hg
  split at hg
  · obtain ⟨h, site, hget, -, hbind⟩ := handlerGate_spec hg
    obtain ⟨m, -, spec, -, hmade⟩ :=
      HandlerTable.made_of_mem htable (List.mem_of_find?_eq_some hget)
    obtain ⟨values, -, rfl⟩ :=
      Handler.bindAll_eq_ok_iff.mp (Handler.bindAll_of_bind hmade.default_bound hbind)
    exact ⟨_, rfl⟩
  · obtain ⟨e, conditions, -, -, rfl⟩ := fieldGate_spec hg
    exact ⟨_, rfl⟩

end Definition

/-- A declaration without clauses, or with a clause without targets. -/
def Declaration.Blank (d : Declaration) : Prop :=
  d.members = [] ∨ ∃ m ∈ d.members, m.targets = []

namespace Manager

open Definition (Context)

variable [PatternEngine] {c : Context} {f : FieldId} {d : Declaration} {gs : FieldGates}

/-- No gate is made of a blank declaration. -/
theorem Declares.not_blank {owner : FieldId} {p : Action × Gate} (h : Declares c owner d p) :
    ¬ d.Blank := by
  obtain ⟨-, defn, hparse, hgate⟩ := h
  obtain ⟨clauses, hclauses, ⟨⟩⟩ := bind_eq_ok_iff.mp hparse
  rw [mapM_eq_ok_iff] at hclauses
  obtain ⟨hne, gates, hgates, -⟩ := Definition.gate_eq_ok_iff.mp hgate
  rintro (hmembers | ⟨m, hm, htargets⟩)
  · rw [hmembers] at hclauses
    exact hne (List.forall₂_nil_left_iff.mp hclauses)
  · obtain ⟨clause, hclause, hreads⟩ := exists_right_of_mem hclauses hm
    obtain ⟨g, -, hg⟩ := exists_right_of_mem hgates hclause
    have hr := (Definition.reads_of_parseClause hreads).targets
    rw [htargets] at hr
    exact (Definition.clauseGate_eq_ok_iff.mp hg).1 (List.forall₂_nil_left_iff.mp hr)

theorem not_blank_of_resolveField (h : (resolveField c f).result = .ok gs)
    (hd : d ∈ c.schema.declarationsOf f) : ¬ d.Blank := by
  cases hf : c.schema.field? f with
  | none => simp [Schema.declarationsOf, hf] at hd
  | some field =>
    obtain ⟨p, -, hp⟩ := exists_right_of_mem (resolveField_spec h hf) hd
    exact hp.not_blank

variable {m : Manager} {typeOf : EntryId → ValueType} {report : Report} {installs : List Install}

/-- No gate that is installed has an empty group in it, or one that could stand for its member. -/
theorem compact_of_resolve (h : (m.resolve typeOf).result = .ok (report, installs)) {i : Install}
    (hi : i ∈ installs) : i.gate.Compact := by
  refine of_mem_installs (fun q gs => Requirement.compact_combine q) h ?_ hi
  intro table htable _ owner clause r g hg
  obtain ⟨question, rfl⟩ := Definition.exists_leaf_of_targetGate htable hg
  exact .leaf question

/-- A field that governs an entry has no blank declaration if everything resolves. -/
theorem not_blank_of_resolve (h : (m.resolve typeOf).result = .ok (report, installs))
    {e : EntryId} (hf : m.Governs f e) (hd : d ∈ m.schema.declarationsOf f) : ¬ d.Blank := by
  obtain ⟨table, known, -, hknown, hall, -, -⟩ := resolve_spec h
  obtain ⟨gs, hgs⟩ := resolved_of_governs hknown hall hf
  exact not_blank_of_resolveField hgs hd

end Manager

namespace Surface

private theorem refused_or_resolved [PatternEngine] {s : Schema} {c : Config}
    {h : List Registration} {m : Manager} (es : Entries) (ht : Registration.Tracks s c h m) :
    let reply := ask { manager := m, entries := es } .build
    (∃ error, reply.answer = .refused error ∧ reply.setters = []) ∨
      ∃ report, (m.resolve es.typeOf).result = .ok (report, reply.setters) := by
  rcases ask_build_of_tracks (s := { manager := m, entries := es }) ht with
    ⟨error, hrefused, hsetters, -⟩ | ⟨report, hreport, -⟩
  · exact .inl ⟨error, hrefused, hsetters⟩
  · exact .inr ⟨report, (ask_build_of_report ht hreport).1⟩

/-- After any history, whatever the build puts on an entry has no group without members at any
depth, and none of one member but to deny it; so a check of any part of it asks a question. The
build is refused if a blank declaration is in force on an entry. -/
theorem installed_groups_full [PatternEngine] (s : Schema) (c : Config) (es : Entries)
    (h : List Registration) :
    let reply := ((start s c es).run (h.map .registration)).ask .build
    (∀ i ∈ reply.setters,
      (∀ q rs, (Requirement.group q rs).PartOf i.gate →
        rs ≠ [] ∧ (q ≠ .none → 2 ≤ rs.length)) ∧
      ∀ r, r.PartOf i.gate → ∀ live, (Gate.check r live).asked ≠ []) ∧
    ∀ e a f d, InForce s h e a f d → (d.members = [] ∨ ∃ m ∈ d.members, m.targets = []) →
      ∃ error, reply.answer = .refused error := by
  intro reply
  obtain ⟨m, ht, hrun⟩ := run_registrations s c es h
  have hreply : reply = ask { manager := m, entries := es } .build := by rw [← hrun]
  rw [hreply]
  rcases refused_or_resolved es ht with ⟨error, hrefused, hsetters⟩ | ⟨report, hresolve⟩
  · rw [hsetters]
    exact ⟨List.forall_mem_nil _, fun _ _ _ _ _ _ => ⟨error, hrefused⟩⟩
  · refine ⟨fun i hi => ?_, fun e a f d hforce hblank => ?_⟩
    · have hcompact := Manager.compact_of_resolve hresolve hi
      refine ⟨fun q rs hpart => ?_, fun r hpart live => ?_⟩
      · cases hcompact.part hpart with
        | group hne htwo _ => exact ⟨hne, htwo⟩
      · obtain ⟨question, hasked⟩ := (hcompact.part hpart).exists_asked
        exact List.ne_nil_of_mem hasked
    · obtain ⟨hf, hd, -⟩ := (inForce_iff ht).mp hforce
      exact absurd hblank (Manager.not_blank_of_resolve hresolve hf hd)

end Surface

namespace Schema

/-- A lamp with two switches, one of which must be on for its glow to be switched, and with a ring
whose declaration has no clauses. -/
def ringedLamp : Schema where
  types :=
    [{ id := ⟨0⟩, package := "", simpleName := "Lamp", enclosing := none
       qualifiedName := "Lamp"
       fields :=
         [{ id := ⟨⟨0⟩, 0⟩, name := "power", type := .bool },
          { id := ⟨⟨0⟩, 1⟩, name := "spare", type := .bool },
          { id := ⟨⟨0⟩, 2⟩, name := "glow", type := .bool
            declarations := [.enableIf (.onAny ["power", "spare"])] },
          { id := ⟨⟨0⟩, 3⟩, name := "ring", type := .bool
            declarations := [.group .display .all []] }] }]

theorem buildable_ringedLamp : ringedLamp.Buildable := by
  have h₁ := Buildable.empty.rootType
    (show addRootType {} "" "Lamp" = .ok (_, _) from rfl)
  have h₂ := h₁.field (show addField _ ⟨0⟩ "power" .bool = .ok (_, _) from rfl)
  have h₃ := h₂.field (show addField _ ⟨0⟩ "spare" .bool = .ok (_, _) from rfl)
  have h₄ := h₃.field (show addField _ ⟨0⟩ "glow" .bool = .ok (_, _) from rfl)
  have h₅ := h₄.field (show addField _ ⟨0⟩ "ring" .bool = .ok (_, _) from rfl)
  have h₆ := h₅.require (show Schema.require _ ⟨⟨0⟩, 2⟩
    (.enableIf (.onAny ["power", "spare"])) = .ok _ from rfl)
  exact h₆.require (show Schema.require _ ⟨⟨0⟩, 3⟩ (.group .display .all []) = .ok _ from rfl)

end Schema

namespace Surface

open scoped Pattern.Engine

def lampEntries : Entries := ⟨List.replicate 3 { type := .bool, value := .bool false }⟩

def ringless : List Registration :=
  [.register ⟨⟨0⟩, 0⟩ [⟨0⟩], .register ⟨⟨0⟩, 1⟩ [⟨1⟩], .register ⟨⟨0⟩, 2⟩ [⟨2⟩]]

/-- The gate on the glow is the group of its two switches, with no other group around it. If the
ring governs the glow too, the build is refused. -/
theorem lamp_with_and_without_ring :
    (∃ i ∈ (((start .ringedLamp {} lampEntries).run (ringless.map .registration)).ask
        .build).setters,
      ∃ rs, i.gate = .group .any rs ∧ 2 ≤ rs.length ∧
        ∀ live, (Gate.check i.gate live).asked ≠ []) ∧
    ∃ error, (((start .ringedLamp {} lampEntries).run
        ((ringless ++ [Registration.registerDeclared ⟨⟨0⟩, 3⟩ [⟨2⟩]]).map .registration)).ask
        .build).answer =
      .refused error := by
  constructor
  · have hany : ((((start .ringedLamp {} lampEntries).run (ringless.map .registration)).ask
        .build).setters.any fun i => i.gate.quantifier? == some .any) = true := by decide +kernel
    obtain ⟨i, hi, hq⟩ := List.any_eq_true.mp hany
    obtain ⟨hgroups, hasked⟩ :=
      (installed_groups_full .ringedLamp {} lampEntries ringless).1 i hi
    cases hgate : i.gate with
    | leaf question => simp [hgate, Requirement.quantifier?] at hq
    | group q rs =>
      obtain rfl : q = .any := by simpa [hgate, Requirement.quantifier?] using hq
      refine ⟨i, hi, rs, hgate, (hgroups .any rs (hgate ▸ .self)).2 (by decide), ?_⟩
      exact hasked i.gate .self
  · refine (installed_groups_full .ringedLamp {} lampEntries _).2 ⟨2⟩ .display ⟨⟨0⟩, 3⟩
      (.group .display .all []) ?_ (.inl rfl)
    exact ⟨⟨ringless, _, [], rfl, ⟨rfl, List.mem_singleton_self _⟩, by simp⟩,
      List.mem_singleton_self _, rfl⟩

/-- A blank declaration is overlooked as long as its field governs nothing. -/
theorem blank_ring_overlooked :
    Schema.ringedLamp.Buildable ∧
    (∃ d ∈ Schema.ringedLamp.declarationsOf ⟨⟨0⟩, 3⟩, d.members = []) ∧
    ∃ report, (((start .ringedLamp {} lampEntries).run (ringless.map .registration)).ask
      .build).answer = .report report :=
  ⟨Schema.buildable_ringedLamp, ⟨_, List.mem_singleton_self _, rfl⟩, _, rfl⟩

end Surface
end FieldGate
