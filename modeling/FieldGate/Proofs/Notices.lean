import FieldGate.Proofs.Installed

/-! The notices that a build gives of declared parts without effect: conditions where a target is a
handler, and arguments where it is a field. They can be read off the declarations of the fields that
govern something, each of which is looked at once. -/
namespace FieldGate

def Warning.isNotice : Warning → Bool
  | ignoredConditions .. | ignoredArguments .. => true
  | unresolvedVariable _ => false

namespace Noted

variable {ε δ α β : Type} {x : Noted ε α} {f : α → Noted ε β} {a : α} {as : List α} {bs : List β}

def notices (x : Noted ε α) : List Warning := x.warnings.filter Warning.isNotice

@[simp] theorem notices_ok (a : α) : (ok a : Noted ε α).notices = [] := rfl

@[simp] theorem notices_ofExcept (r : Except ε α) : (ofExcept r).notices = [] := rfl

@[simp] theorem notices_mapError (g : ε → δ) (x : Noted ε α) :
    (x.mapError g).notices = x.notices := rfl

/-- Where the first part goes through, its notices come before those of the rest. -/
theorem notices_andThen_of_ok (h : x.result = .ok a) (f : α → Noted ε β) :
    (x.andThen f).notices = x.notices ++ (f a).notices := by
  rw [andThen, h]
  exact List.filter_append ..

theorem notices_bind_of_ok (h : x.result = .ok a) (f : α → Noted ε β) :
    (x >>= f).notices = x.notices ++ (f a).notices := notices_andThen_of_ok h f

theorem notices_andThen_eq_nil (hx : x.notices = []) (hf : ∀ a, (f a).notices = []) :
    (x.andThen f).notices = [] := by
  cases h : x.result with
  | error e =>
    rw [andThen, h]
    exact hx
  | ok a => rw [notices_andThen_of_ok h, hx, hf, List.append_nil]

/-- Steps that all succeed give their notices in turn. -/
theorem notices_each (h : (each f as).result = .ok bs) :
    (each f as).notices = as.flatMap fun a => (f a).notices := by
  induction as generalizing bs with
  | nil => rfl
  | cons a as ih =>
    rw [each, result_andThen, bind_eq_ok_iff] at h
    obtain ⟨b, hb, h⟩ := h
    rw [result_andThen, bind_eq_ok_iff] at h
    obtain ⟨bs, hbs, -⟩ := h
    rw [each, notices_andThen_of_ok hb, notices_andThen_of_ok hbs, notices_ok, List.append_nil,
      ih hbs, List.flatMap_cons]

/-- Steps that are related to what they come from give the notices of that. -/
theorem notices_each_of_forall₂ {γ : Type} {R : γ → α → Prop} {cs : List γ}
    {g : γ → List Warning} (hR : List.Forall₂ R cs as) (h : (each f as).result = .ok bs)
    (hg : ∀ c a b, R c a → (f a).result = .ok b → (f a).notices = g c) :
    (each f as).notices = cs.flatMap g := by
  rw [notices_each h]
  rw [result_each, mapM_eq_ok_iff] at h
  exact flatMap_eq_of_forall₂ hR h hg

end Noted

section Engine

variable [PatternEngine]

/-- Checking arguments gives warnings of variables only. -/
theorem Signature.notices_checkArguments (s : Signature) (types : List ValueType)
    (literals : List String) : (s.checkArguments types literals).notices = [] := by
  have hfixed (b : Bindings) (p : ParamType) : ∀ w ∈ (resolveFixed b p).2, w.isNotice = false := by
    intro w hw
    cases p with
    | generic name bound =>
      rw [resolveFixed] at hw
      split at hw
      · cases hw
      · rw [List.mem_singleton.mp hw]
        rfl
    | _ => cases hw
  have hpositions (count : Nat) :
      ∀ w ∈ (s.positions types count).2.2, w.isNotice = false := by
    intro w hw
    unfold positions at hw
    dsimp only at hw
    obtain ⟨_, hmem, hw⟩ := List.mem_flatMap.mp hw
    obtain ⟨p, -, rfl⟩ := List.mem_map.mp hmem
    exact hfixed _ p w hw
  unfold checkArguments
  dsimp only
  split
  · rfl
  · refine List.filter_eq_nil_iff.mpr fun w hw => ?_
    rw [hpositions _ w hw]
    exact Bool.false_ne_true

theorem Handler.notices_bindAll (h : Handler) (typeOf : EntryId → ValueType)
    (site : List BoundEntry) (literals : List String) :
    (h.bindAll typeOf site literals).notices = [] :=
  Noted.notices_andThen_eq_nil (Signature.notices_checkArguments ..) fun _ => rfl

theorem Handler.notices_bind (h : Handler) (typeOf : EntryId → ValueType)
    (site : List BoundEntry) (literals : List String) :
    (h.bind typeOf site literals).notices = [] := by
  unfold bind
  split
  · rfl
  · exact Handler.notices_bindAll ..

namespace HandlerTable

variable {c : Context}

private theorem notices_makeHandler (c : Context) (m : MethodDef) (spec : HandlerSpec) :
    (makeHandler c m spec).notices = [] := by
  unfold makeHandler
  dsimp only
  split
  · rfl
  · rfl
  · split
    · exact Noted.notices_andThen_eq_nil (Handler.notices_bindAll ..) fun _ => rfl
    · rfl

private theorem notices_addEach (t : HandlerTable) (ms : List MethodDef) :
    (addEach c t ms).notices = [] := by
  induction ms generalizing t with
  | nil => rfl
  | cons m ms ih =>
    unfold addEach
    split
    · exact ih t
    · refine Noted.notices_andThen_eq_nil (notices_makeHandler ..) fun h => ?_
      split
      · rfl
      · exact ih _

/-- No requirement has a part in the table of handlers, so nothing is noticed there. -/
theorem notices_build (c : Context) : (build c).notices = [] := notices_addEach ..

end HandlerTable

def Schema.notice? (s : Schema) (trim : Bool) (f : FieldId) (d : Dependency) (text : String) :
    Option Warning :=
  match (s.parse trim f.owner text).map Reference.target with
  | .ok (.method id) =>
    if d.hasConditions then some (.ignoredConditions (s.fieldKey f) (s.methodKey id)) else none
  | .ok (.field _) => if d.hasArguments then some (.ignoredArguments (s.fieldKey f) text) else none
  | .error _ => none

/-- What is noticed about the declarations of a field: clause by clause, and target by target. -/
def Schema.noticesOf (s : Schema) (trim : Bool) (f : FieldId) : List Warning :=
  (s.declarationsOf f).flatMap fun d =>
    d.members.flatMap fun m => m.targets.filterMap (s.notice? trim f m)

/-- Every target that a field declares names a member of the schema. -/
def Schema.NamesTargets (s : Schema) (trim : Bool) (f : FieldId) : Prop :=
  ∀ d ∈ s.declarationsOf f, ∀ m ∈ d.members, ∀ text ∈ m.targets,
    ∃ r, s.parse trim f.owner text = .ok r

/-- Compiling drops no pattern and adds none. -/
theorem isEmpty_of_compilePatterns {patterns : List String} {compiled : List CompiledPattern}
    (h : compilePatterns patterns = .ok compiled) : compiled.isEmpty = patterns.isEmpty := by
  cases patterns with
  | nil =>
    cases h
    rfl
  | cons p patterns =>
    unfold compilePatterns at h
    split at h
    · obtain ⟨rest, -, rfl⟩ := map_eq_ok_iff.mp h
      rfl
    · cases h

namespace Definition

variable {c : Context} {f : FieldId} {d : Dependency} {clause : Clause} {owner text : String}
  {g : Gate} {r : Reference}

/-- A clause has conditions or arguments as it was declared. -/
theorem Reads.hasConditions_eq {s : Schema} {trim : Bool} (hr : Reads s trim f d clause) :
    clause.hasConditions = d.hasConditions := by
  rw [Clause.hasConditions, hr.conditions_eq, isEmpty_of_compilePatterns hr.patterns]
  rfl

theorem Reads.hasArguments_eq {s : Schema} {trim : Bool} (hr : Reads s trim f d clause) :
    clause.hasArguments = d.hasArguments := by
  have hempty : clause.arguments.isEmpty = d.arguments.isEmpty := by
    rw [Bool.eq_iff_iff, List.isEmpty_iff_length_eq_zero, List.isEmpty_iff_length_eq_zero,
      hr.arguments.length_eq]
  rw [Clause.hasArguments, hempty, hr.staticArguments_eq]
  rfl

private theorem notices_fieldGate {r : FieldReference}
    (h : (fieldGate c owner clause r).result = .ok g) :
    (fieldGate c owner clause r).notices =
      if clause.hasArguments then [.ignoredArguments owner r.text] else [] := by
  rw [result_fieldGate] at h
  obtain ⟨e, he, h⟩ := bind_eq_ok_iff.mp h
  obtain ⟨conditions, hconditions, -⟩ := bind_eq_ok_iff.mp h
  unfold fieldGate
  split
  · rw [Noted.notices_bind_of_ok (Noted.result_warn _), Noted.notices_bind_of_ok he,
      Noted.notices_bind_of_ok hconditions]
    rfl
  · rw [Noted.notices_bind_of_ok he, Noted.notices_bind_of_ok hconditions]
    rfl

private theorem notices_handlerGate {id : MethodId} {handler : Handler}
    (hget : c.handlers.get? id = some handler)
    (h : (handlerGate c owner clause id text).result = .ok g) :
    (handlerGate c owner clause id text).notices =
      if clause.hasConditions then [.ignoredConditions owner handler.key] else [] := by
  rw [result_handlerGate, hget] at h
  dsimp only at h
  split at h
  · cases h
  · rename_i hlax
    obtain ⟨site, hsite, -⟩ := bind_eq_ok_iff.mp h
    unfold handlerGate
    simp only [hget, if_neg hlax]
    split
    · rw [Noted.notices_bind_of_ok (Noted.result_warn _), Noted.notices_bind_of_ok hsite,
        Noted.notices_mapError, Handler.notices_bind]
      rfl
    · rw [Noted.notices_bind_of_ok hsite, Noted.notices_mapError, Handler.notices_bind]
      rfl

private theorem notices_targetGate (hs : c.schema.Sound)
    (htable : (HandlerTable.build c.toContext).result = .ok c.handlers)
    (hr : Reads c.schema c.config.trimReferences f d clause)
    (hparse : c.schema.parse c.config.trimReferences f.owner text = .ok r)
    (hg : (targetGate c (c.schema.fieldKey f) clause r).result = .ok g) :
    (targetGate c (c.schema.fieldKey f) clause r).notices =
      (c.schema.notice? c.config.trimReferences f d text).toList := by
  obtain ⟨target, text'⟩ := r
  obtain rfl : text' = text := Schema.text_eq_of_parse hparse
  unfold Schema.notice?
  rw [hparse]
  cases target with
  | field target =>
    refine (notices_fieldGate hg).trans ?_
    rw [hr.hasArguments_eq]
    cases d.hasArguments <;> rfl
  | method id =>
    obtain ⟨handler, -, hget, -⟩ := handlerGate_spec hg
    obtain ⟨-, m, _, hmethod, -, hmade⟩ := HandlerTable.made_of_get? hs htable hget
    refine (notices_handlerGate hget hg).trans ?_
    rw [hr.hasConditions_eq, hmade.key_eq, hs.id_of_method? hmethod]
    cases d.hasConditions <;> rfl

private theorem notices_clauseGate (hs : c.schema.Sound)
    (htable : (HandlerTable.build c.toContext).result = .ok c.handlers)
    (hclause : parseClause c.schema c.config.trimReferences f d = .ok clause)
    (hg : (clauseGate c (c.schema.fieldKey f) clause).result = .ok g) :
    (clauseGate c (c.schema.fieldKey f) clause).notices =
      d.targets.filterMap (c.schema.notice? c.config.trimReferences f d) := by
  have hr := reads_of_parseClause hclause
  unfold clauseGate at hg ⊢
  split at hg
  · cases hg
  · rename_i htargets
    rw [Noted.result_andThen, bind_eq_ok_iff] at hg
    obtain ⟨gs, hgs, -⟩ := hg
    rw [if_neg htargets, Noted.notices_andThen_of_ok hgs, Noted.notices_ok, List.append_nil,
      List.filterMap_eq_flatMap_toList]
    exact Noted.notices_each_of_forall₂ hr.targets hgs fun _ _ _ => notices_targetGate hs htable hr

private theorem notices_gate {d : Declaration} {defn : Definition} (hs : c.schema.Sound)
    (htable : (HandlerTable.build c.toContext).result = .ok c.handlers)
    (hparse : parse c.schema c.config.trimReferences f d = .ok defn)
    (hg : (gate c defn).result = .ok g) :
    (gate c defn).notices =
      d.members.flatMap fun m => m.targets.filterMap
        (c.schema.notice? c.config.trimReferences f m) := by
  obtain ⟨clauses, hclauses, ⟨⟩⟩ := bind_eq_ok_iff.mp hparse
  rw [mapM_eq_ok_iff] at hclauses
  unfold gate at hg ⊢
  dsimp only at hg ⊢
  split at hg
  · cases hg
  · rename_i hempty
    rw [Noted.result_andThen, bind_eq_ok_iff] at hg
    obtain ⟨gs, hgs, -⟩ := hg
    rw [if_neg hempty, Noted.notices_andThen_of_ok hgs, Noted.notices_ok, List.append_nil]
    exact Noted.notices_each_of_forall₂ hclauses hgs fun _ _ _ => notices_clauseGate hs htable

end Definition

namespace Manager

open Definition (Context)

variable {c : Context} {f : FieldId} {fs : List FieldId} {gs : FieldGates}
  {known known' : Resolved}

private theorem namesTargets_of_parseAll {s : Schema} {trim : Bool} {d : FieldDef}
    {defns : List Definition} (h : Definition.parseAll s trim d = .ok defns) :
    ∀ decl ∈ d.declarations, ∀ m ∈ decl.members, ∀ text ∈ m.targets,
      ∃ r, s.parse trim d.id.owner text = .ok r := by
  intro decl hdecl m hm text htext
  obtain ⟨defn, -, hparse⟩ := exists_right_of_mem (mapM_eq_ok_iff.mp h) hdecl
  obtain ⟨clauses, hclauses, -⟩ := bind_eq_ok_iff.mp hparse
  obtain ⟨clause, -, hclause⟩ := exists_right_of_mem (mapM_eq_ok_iff.mp hclauses) hm
  obtain ⟨r, -, hr⟩ := exists_right_of_mem (Definition.reads_of_parseClause hclause).targets htext
  exact ⟨r, hr⟩

/-- A field that resolves has targets that name members, and is noticed as it was declared. -/
theorem notices_resolveField (hs : c.schema.Sound)
    (htable : (HandlerTable.build c.toContext).result = .ok c.handlers)
    (h : (resolveField c f).result = .ok gs) :
    c.schema.NamesTargets c.config.trimReferences f ∧
      (resolveField c f).notices = c.schema.noticesOf c.config.trimReferences f := by
  unfold Schema.NamesTargets Schema.noticesOf
  cases hd : c.schema.field? f with
  | none => simp [resolveField, Schema.declarationsOf, hd]
  | some d =>
    rw [Schema.declarationsOf_of_field? hd]
    simp only [resolveField, hd] at h ⊢
    rw [Noted.result_andThen, bind_eq_ok_iff] at h
    obtain ⟨defns, hparse, hgates⟩ := h
    obtain rfl : d.id = f := hs.id_of_field? hd
    refine ⟨namesTargets_of_parseAll hparse, ?_⟩
    rw [Noted.notices_andThen_of_ok hparse, Noted.notices_ofExcept, List.nil_append]
    refine Noted.notices_each_of_forall₂ (mapM_eq_ok_iff.mp hparse) hgates
      fun decl defn p hdefn hp => ?_
    obtain ⟨g, hg, -⟩ := bind_eq_ok_iff.mp ((Noted.result_andThen ..).symm.trans hp)
    rw [Noted.notices_andThen_of_ok hg, Noted.notices_ok, List.append_nil]
    exact Definition.notices_gate hs htable hdefn hg

private theorem lookup_concat_eq_none_iff {f' : FieldId} :
    (known ++ [(f', gs)]).lookup f = none ↔ known.lookup f = none ∧ f ≠ f' := by
  rw [List.lookup_append, Option.or_eq_none_iff]
  refine and_congr_right fun _ => ?_
  by_cases hf : f = f'
  · simp [hf]
  · simp [List.lookup_cons, beq_false_of_ne hf, hf]

/-- Resolving fields gives the notices of those that were not known, each of them once. -/
theorem notices_resolveEach (h : (resolveEach c known fs).result = .ok known') :
    ∃ fresh : List FieldId, fresh.Nodup ∧
      (∀ f, f ∈ fresh ↔ f ∈ fs ∧ known.lookup f = none) ∧
      (∀ f ∈ fresh, ∃ gs, (resolveField c f).result = .ok gs) ∧
      (resolveEach c known fs).notices = fresh.flatMap fun f => (resolveField c f).notices := by
  induction fs generalizing known with
  | nil => exact ⟨[], .nil, by simp, by simp, rfl⟩
  | cons a fs ih =>
    unfold resolveEach at h ⊢
    split at h
    · rename_i ha
      obtain ⟨fresh, hnodup, hmem, hok, hnotices⟩ := ih h
      rw [if_pos ha]
      refine ⟨fresh, hnodup, fun f => (hmem f).trans ?_, hok, hnotices⟩
      constructor
      · rintro ⟨hf, hnone⟩
        exact ⟨List.mem_cons_of_mem _ hf, hnone⟩
      · rintro ⟨hf, hnone⟩
        rcases List.mem_cons.mp hf with rfl | hf
        · simp [hnone] at ha
        · exact ⟨hf, hnone⟩
    · rename_i ha
      rw [Noted.result_andThen, bind_eq_ok_iff] at h
      obtain ⟨gs, hgs, h⟩ := h
      obtain ⟨fresh, hnodup, hmem, hok, hnotices⟩ := ih h
      simp only [lookup_concat_eq_none_iff] at hmem
      rw [if_neg ha, Noted.notices_andThen_of_ok hgs]
      refine ⟨a :: fresh, List.nodup_cons.mpr ⟨fun hf => ((hmem a).mp hf).2.2 rfl, hnodup⟩,
        fun f => ?_, List.forall_mem_cons.mpr ⟨⟨gs, hgs⟩, hok⟩, ?_⟩
      · rw [List.mem_cons, List.mem_cons, hmem]
        by_cases hf : f = a
        · subst hf
          simpa only [true_or, true_and, true_iff] using Option.not_isSome_iff_eq_none.mp ha
        · simp [hf]
      · rw [hnotices, List.flatMap_cons]

/-- A resolution that succeeds gives the notices of the fields that govern something, of each of
them once. -/
theorem notices_resolve {m : Manager} {typeOf : EntryId → ValueType}
    {built : Report × List Install} (h : (m.resolve typeOf).result = .ok built) :
    ∃ table, (HandlerTable.build (m.basis typeOf)).result = .ok table ∧
      ∃ fields : List FieldId, fields.Nodup ∧ (∀ f, f ∈ fields ↔ ∃ e, m.Governs f e) ∧
        (∀ f ∈ fields, ∃ gs, (resolveField ⟨m.basis typeOf, table⟩ f).result = .ok gs) ∧
        (m.resolve typeOf).notices =
          fields.flatMap fun f => (resolveField ⟨m.basis typeOf, table⟩ f).notices := by
  unfold resolve at h ⊢
  dsimp only at h ⊢
  rw [Noted.result_andThen, bind_eq_ok_iff] at h
  obtain ⟨table, htable, h⟩ := h
  rw [Noted.result_andThen, bind_eq_ok_iff] at h
  obtain ⟨known, hknown, -⟩ := h
  obtain ⟨fields, hnodup, hmem, hok, hnotices⟩ := notices_resolveEach hknown
  refine ⟨table, ?_, fields, hnodup, fun f => ?_, hok, ?_⟩
  · rw [Noted.result_mapError, mapError_eq_ok_iff] at htable
    exact htable
  · rw [hmem, List.mem_flatMap]
    constructor
    · rintro ⟨⟨g, hg, hf⟩, -⟩
      exact ⟨g.entry, g, (mem_governing_iff.mp hg).1, rfl, hf⟩
    · rintro ⟨e, g, hg, -, hf⟩
      exact ⟨⟨g, mem_governing_iff.mpr ⟨hg, List.ne_nil_of_mem hf⟩, hf⟩, rfl⟩
  · rw [Noted.notices_andThen_of_ok htable, Noted.notices_mapError, HandlerTable.notices_build,
      Noted.notices_andThen_of_ok hknown, Noted.notices_ok, hnotices, List.append_nil,
      List.nil_append]
    rfl

end Manager

namespace Registration

/-- After any history, a build that succeeds gives the notices that can be read off the declarations
of the fields that govern something: of each such field once, in the order of its declarations,
their clauses and the targets of these, all of which name members of the schema. -/
theorem notices_of_build {s : Schema} (hs : s.Buildable) (c : Config) (h : List Registration)
    (typeOf : EntryId → ValueType) :
    ∃ m, run { schema := s, config := c } h = .ok m ∧
      ∀ built, (m.build typeOf).2.result = .ok built →
        ∃ fields : List FieldId, fields.Nodup ∧ (∀ f, f ∈ fields ↔ ∃ e, m.Governs f e) ∧
          (∀ f ∈ fields, s.NamesTargets c.trimReferences f) ∧
          (m.build typeOf).2.notices = fields.flatMap (s.noticesOf c.trimReferences) := by
  obtain ⟨m, hm, ht⟩ := tracks_run s c h
  refine ⟨m, hm, fun built hbuilt => ?_⟩
  rw [Manager.build, ht.state] at hbuilt ⊢
  obtain ⟨table, htable, fields, hnodup, hmem, hok, hnotices⟩ := Manager.notices_resolve hbuilt
  have hsound : m.schema.Sound := ht.schema ▸ hs.sound
  have hfield (f : FieldId) (hf : f ∈ fields) : s.NamesTargets c.trimReferences f ∧
      (Manager.resolveField ⟨m.basis typeOf, table⟩ f).notices =
        s.noticesOf c.trimReferences f := by
    obtain ⟨gs, hgs⟩ := hok f hf
    rw [← ht.schema, ← ht.config]
    exact Manager.notices_resolveField (c := ⟨m.basis typeOf, table⟩) hsound htable hgs
  exact ⟨fields, hnodup, hmem, fun f hf => (hfield f hf).1,
    hnotices.trans (List.flatMap_congr fun f hf => (hfield f hf).2)⟩

end Registration

end Engine

namespace Schema

/-- A lantern whose glow depends on its level, and through a handler on its power. -/
def lantern : Schema where
  types :=
    [{ id := ⟨0⟩, package := "", simpleName := "Lantern", enclosing := none
       qualifiedName := "Lantern"
       fields :=
         [{ id := ⟨⟨0⟩, 0⟩, name := "power", type := .bool },
          { id := ⟨⟨0⟩, 1⟩, name := "level", type := .number .int32 },
          { id := ⟨⟨0⟩, 2⟩, name := "glow", type := .bool
            declarations := [.enableIf { targets := ["level", "#isOn"], conditions := [">0"]
                                         arguments := ["power"] }] }]
       methods :=
         [{ id := ⟨⟨0⟩, 0⟩, name := "isOn", signature := .predicate [.exact .bool]
            handler := some ⟨[], Builtin.isTrue⟩ }] }]
  handlerTypes := [⟨0⟩]

theorem buildable_lantern : lantern.Buildable := by
  have h₁ := Buildable.empty.rootType
    (show addRootType {} "" "Lantern" = .ok (_, _) from rfl)
  have h₂ := h₁.field (show addField _ ⟨0⟩ "power" .bool = .ok (_, _) from rfl)
  have h₃ := h₂.field (show addField _ ⟨0⟩ "level" (.number .int32) = .ok (_, _) from rfl)
  have h₄ := h₃.field (show addField _ ⟨0⟩ "glow" .bool = .ok (_, _) from rfl)
  have h₅ := h₄.handler (show addHandler _ ⟨0⟩ "isOn" (.predicate [.exact .bool])
    ⟨[], Builtin.isTrue⟩ = .ok (_, _) from rfl)
  exact h₅.require (show Schema.require _ ⟨⟨0⟩, 2⟩
    (.enableIf { targets := ["level", "#isOn"], conditions := [">0"]
                 arguments := ["power"] }) = .ok _ from rfl)

end Schema

namespace Registration

open scoped Pattern.Engine

/-- The glow of two lanterns is governed by one declaration, which is noticed once. -/
theorem notices_of_glow :
    let h : List Registration := [.register ⟨⟨0⟩, 0⟩ [⟨0⟩], .register ⟨⟨0⟩, 2⟩ [⟨1⟩, ⟨2⟩],
      .register ⟨⟨0⟩, 1⟩ [⟨3⟩]]
    let typeOf : EntryId → ValueType := fun e => if e = ⟨3⟩ then .number .int32 else .bool
    ∃ m, run { schema := .lantern } h = .ok m ∧
      (m.Governs ⟨⟨0⟩, 2⟩ ⟨1⟩ ∧ m.Governs ⟨⟨0⟩, 2⟩ ⟨2⟩) ∧
      (m.build typeOf).2.notices =
        [.ignoredArguments "Lantern#glow" "level",
         .ignoredConditions "Lantern#glow" "Lantern#isOn"] := by
  intro h typeOf
  obtain ⟨m, hm, hbuild⟩ := notices_of_build Schema.buildable_lantern {} h typeOf
  have hgoverned : m.governed = [⟨⟨1⟩, [⟨⟨0⟩, 2⟩]⟩, ⟨⟨2⟩, [⟨⟨0⟩, 2⟩]⟩] := by
    cases hm
    rfl
  have hok : ∃ built, (m.build typeOf).2.result = .ok built := by
    cases hm
    exact ⟨(_, _), rfl⟩
  have hgoverns (f : FieldId) (e : EntryId) :
      m.Governs f e ↔ (e = ⟨1⟩ ∨ e = ⟨2⟩) ∧ f = ⟨⟨0⟩, 2⟩ := by
    simp only [Manager.Governs, hgoverned, List.mem_cons, List.not_mem_nil, or_false,
      or_and_right, exists_or, exists_eq_left, eq_comm]
  obtain ⟨built, hbuilt⟩ := hok
  obtain ⟨fields, hnodup, hmem, -, hnotices⟩ := hbuild built hbuilt
  obtain rfl : fields = [⟨⟨0⟩, 2⟩] := by
    refine List.perm_singleton.mp ((List.perm_ext_iff_of_nodup hnodup (by simp)).mpr fun f => ?_)
    simp only [hmem, hgoverns, List.mem_singleton]
    exact ⟨fun ⟨_, _, hf⟩ => hf, fun hf => ⟨⟨1⟩, .inl rfl, hf⟩⟩
  exact ⟨m, hm, ⟨(hgoverns _ _).mpr ⟨.inl rfl, rfl⟩, (hgoverns _ _).mpr ⟨.inr rfl, rfl⟩⟩, hnotices⟩

end Registration

end FieldGate
