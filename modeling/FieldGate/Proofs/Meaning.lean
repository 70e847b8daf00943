import FieldGate.Proofs.Binding
import FieldGate.Proofs.Building
import FieldGate.Proofs.Verdict

/-! What declared requirements mean in a live state, and that their gates answer just that. -/
namespace FieldGate

/-- The values as a body takes them: those past the fixed parameters come as one list. -/
def Signature.passed (s : Signature) (values : List Value) : List Value :=
  if s.isVariadic then
    values.take s.params.length ++ [.list (values.drop s.params.length)]
  else values

section Arguments

variable {live : Live}

theorem readAll_literals (live : Live) (literals : List Value) :
    Argument.readAll live (literals.map .literal) = .ok literals := by
  induction literals with
  | nil => rfl
  | cons l literals ih =>
    rw [List.map_cons, Argument.readAll, ih]
    rfl

private theorem readAll_eq_ok_iff {bs : List BoundEntry} {literals values : List Value} :
    Argument.readAll live (bs.map .entry ++ literals.map .literal) = .ok values ↔
      ∃ vs, List.Forall₂ (fun e v => live e = some v) (bs.map BoundEntry.entry) vs ∧
        values = vs ++ literals := by
  induction bs generalizing values with
  | nil => simp [readAll_literals, eq_comm]
  | cons bound bs ih =>
    simp only [List.map_cons, List.cons_append, Argument.readAll, Argument.read,
      List.forall₂_cons_left_iff]
    cases hl : live bound.entry with
    | none => simp
    | some v =>
      simp only [map_eq_ok_iff, ih, Option.some.injEq]
      constructor
      · rintro ⟨_, ⟨vs, hvs, rfl⟩, rfl⟩
        exact ⟨v :: vs, ⟨v, vs, rfl, hvs, rfl⟩, rfl⟩
      · rintro ⟨_, ⟨_, vs, rfl, hvs, rfl⟩, rfl⟩
        exact ⟨vs ++ literals, ⟨vs, hvs, rfl⟩, rfl⟩

private theorem answer_eq_ok_iff {k : Call} {b : Bool} :
    k.answer live = .ok b ↔
      ∃ values, Argument.readAll live k.arguments = .ok values ∧
        k.body (k.pack values) = .ok b := by
  unfold Call.answer
  cases Argument.readAll live k.arguments <;> simp

end Arguments

theorem Schema.text_eq_of_parse {s : Schema} {trim : Bool} {base : TypeId} {text : String}
    {r : Reference} (h : s.parse trim base text = .ok r) : r.text = text := by
  unfold parse at h
  split at h
  · cases h
  · split at h
    · cases h
    · cases h
      rfl

variable [PatternEngine]

/-- What one target of a clause says in a live state. A field says whether the value of the entry
that it means meets the conditions of the clause. A handler says what its body makes of the values
of its constant arguments, of the arguments of the clause and of the literals of the clause. -/
inductive Setting.Says (st : Setting) (live : Live) (owner : TypeId) (d : Dependency)
    (text : String) : Bool → Prop
  | field {target : FieldTarget} {e : EntryId} {patterns : List CompiledPattern}
      {conditions : ConditionSet} {value : Value} {b : Bool}
      (hparse : st.schema.parse st.config.trimReferences owner text = .ok ⟨.field target, text⟩)
      (hentry : EntryTable.place? (st.registered target.field) target.index.toInt = some e)
      (hpatterns : compilePatterns d.patterns = .ok patterns)
      (hconditions : ConditionSet.build (st.typeOf e) d.conditions patterns = .ok conditions)
      (hlive : live e = some value)
      (hmatches : conditions.matches? text value = .ok b) : Says st live owner d text b
  | handler {id : MethodId} {m : MethodDef} {spec : HandlerSpec} {constants site : List EntryId}
      {literals values : List Value} {b : Bool}
      (hparse : st.schema.parse st.config.trimReferences owner text = .ok ⟨.method id, text⟩)
      (howner : id.owner ∈ st.schema.handlerTypes)
      (hmethod : st.schema.method? id = some m) (hspec : m.handler = some spec)
      (hconstants : List.Forall₂ (st.Names id.owner) spec.constParams constants)
      (hsite : List.Forall₂ (st.Names owner) d.arguments site)
      (hliterals : (m.signature.checkArguments ((constants ++ site).map st.typeOf)
        d.staticArguments).result = .ok literals)
      (hlive : List.Forall₂ (fun e v => live e = some v) (constants ++ site) values)
      (hbody : spec.body (m.signature.passed (values ++ literals)) = .ok b) :
      Says st live owner d text b

/-- A clause holds if one of its targets does. -/
def Setting.Satisfied (st : Setting) (live : Live) (owner : TypeId) (d : Dependency) : Prop :=
  ∃ text ∈ d.targets, st.Says live owner d text true

def Setting.Answered (st : Setting) (live : Live) (owner : TypeId) (d : Dependency) : Prop :=
  ∀ text ∈ d.targets, ∃ b, st.Says live owner d text b

section Live

variable {live : Live} {b : Bool}

private theorem outcome_call {h : Handler} {bs : List BoundEntry} {literals : List Value} :
    Gate.outcome (.leaf (.call (h.call (bs.map .entry ++ literals.map .literal)))) live = .ok b ↔
      ∃ vs, List.Forall₂ (fun e v => live e = some v) (bs.map BoundEntry.entry) vs ∧
        h.body (h.signature.passed (vs ++ literals)) = .ok b := by
  refine answer_eq_ok_iff.trans ?_
  constructor
  · rintro ⟨values, hvalues, hb⟩
    obtain ⟨vs, hvs, rfl⟩ := readAll_eq_ok_iff.mp hvalues
    exact ⟨vs, hvs, hb⟩
  · rintro ⟨vs, hvs, hb⟩
    exact ⟨vs ++ literals, readAll_eq_ok_iff.mpr ⟨vs, hvs, rfl⟩, hb⟩

private theorem outcome_field {text : String} {e : EntryId} {conditions : ConditionSet} :
    Gate.outcome (.leaf (.field text e conditions)) live = .ok b ↔
      ∃ value, live e = some value ∧ conditions.matches? text value = .ok b := by
  change Question.answer live (.field text e conditions) = .ok b ↔ _
  cases hl : live e <;> simp [Question.answer, hl]

end Live

namespace Definition

variable {c : Context} {s : Schema} {trim : Bool} {f : FieldId} {d : Dependency} {clause : Clause}
  {owner text : String} {g : Gate} {r : Reference}

/-- A clause as it is read from a member of a declaration on a field. -/
structure Reads (s : Schema) (trim : Bool) (f : FieldId) (d : Dependency) (clause : Clause) :
    Prop where
  targets : List.Forall₂ (fun t r => s.parse trim f.owner t = .ok r) d.targets clause.targets
  arguments : List.Forall₂ (fun t r => s.parseField trim f.owner t = .ok r) d.arguments
    clause.arguments
  patterns : compilePatterns d.patterns = .ok clause.patterns
  conditions_eq : clause.conditions = d.conditions
  staticArguments_eq : clause.staticArguments = d.staticArguments

theorem reads_of_parseClause (h : parseClause s trim f d = .ok clause) :
    Reads s trim f d clause := by
  unfold parseClause at h
  dsimp only at h
  obtain ⟨targets, htargets, h⟩ := bind_eq_ok_iff.mp h
  obtain ⟨arguments, harguments, h⟩ := bind_eq_ok_iff.mp h
  obtain ⟨patterns, hpatterns, ⟨⟩⟩ := bind_eq_ok_iff.mp h
  simp only [mapM_eq_ok_iff, mapError_eq_ok_iff] at htargets harguments hpatterns
  exact ⟨htargets, harguments, hpatterns, rfl, rfl⟩

private theorem place?_of_lookupEntry {r : FieldReference} {e : EntryId}
    (h : lookupEntry c owner r = .ok e) :
    EntryTable.place? (c.setting.registered r.target.field) r.target.index.toInt = some e :=
  EntryTable.entry_eq_ok_iff.mp (mapError_eq_ok_iff.mp h)

/-- Without its warnings, a field target is looked up and gets its conditions. -/
theorem result_fieldGate (c : Context) (owner : String) (clause : Clause) (r : FieldReference) :
    (fieldGate c owner clause r).result =
      lookupEntry c owner r >>= fun e =>
        (ConditionSet.build (c.typeOf e) clause.conditions clause.patterns).mapError
          (.condition owner r.text) >>= fun conditions =>
            .ok (.leaf (.field r.text e conditions)) := by
  unfold fieldGate
  split
  · simp only [Noted.result_bind, Noted.result_warn, Noted.result_ofExcept, Noted.result_pure]
    rfl
  · simp only [Noted.result_bind, Noted.result_ofExcept, Noted.result_pure]

/-- Without its warnings, a handler target is found, has its arguments looked up and is bound to
them. -/
theorem result_handlerGate (c : Context) (owner : String) (clause : Clause) (id : MethodId)
    (text : String) :
    (handlerGate c owner clause id text).result =
      match c.handlers.get? id with
      | none => .error (.danglingReference owner text)
      | some h =>
        if clause.hasConditions && c.config.strictHandlerConditions then
          .error (.ignoredConditions owner h.key)
        else
          (clause.arguments.mapM fun r =>
            (lookupEntry c owner r).map fun e => (⟨e, r.text⟩ : BoundEntry)) >>= fun site =>
              (h.bind c.typeOf site clause.staticArguments).result.mapError
                (.handlerSite owner) := by
  unfold handlerGate
  cases c.handlers.get? id with
  | none => rfl
  | some h =>
    dsimp only
    split
    · rfl
    · split
      · simp only [Noted.result_bind, Noted.result_warn, Noted.result_ofExcept,
          Noted.result_mapError]
        rfl
      · simp only [Noted.result_bind, Noted.result_ofExcept, Noted.result_mapError]

/-- A field target asks about the entry that it means, under conditions for the type of the
entry. -/
theorem fieldGate_spec {r : FieldReference}
    (h : (fieldGate c owner clause r).result = .ok g) :
    ∃ e conditions,
      EntryTable.place? (c.setting.registered r.target.field) r.target.index.toInt = some e ∧
      ConditionSet.build (c.typeOf e) clause.conditions clause.patterns = .ok conditions ∧
      g = .leaf (.field r.text e conditions) := by
  simp only [result_fieldGate, bind_eq_ok_iff, mapError_eq_ok_iff, Except.ok.injEq] at h
  obtain ⟨e, he, conditions, hconditions, rfl⟩ := h
  exact ⟨e, conditions, place?_of_lookupEntry he, hconditions, rfl⟩

/-- A handler target is bound to the entries that the arguments of the clause mean. -/
theorem handlerGate_spec {id : MethodId}
    (h : (handlerGate c owner clause id text).result = .ok g) :
    ∃ handler site, c.handlers.get? id = some handler ∧
      List.Forall₂ (fun (r : FieldReference) (b : BoundEntry) =>
        EntryTable.place? (c.setting.registered r.target.field) r.target.index.toInt = some b.entry)
        clause.arguments site ∧
      (handler.bind c.typeOf site clause.staticArguments).result = .ok g := by
  rw [result_handlerGate] at h
  split at h
  · cases h
  · rename_i handler hget
    split at h
    · cases h
    · simp only [bind_eq_ok_iff, mapError_eq_ok_iff, mapM_eq_ok_iff] at h
      obtain ⟨site, hsite, hbind⟩ := h
      refine ⟨handler, site, hget, hsite.imp fun r b hb => ?_, hbind⟩
      obtain ⟨e, he, rfl⟩ := map_eq_ok_iff.mp hb
      exact place?_of_lookupEntry he

/-- The gate of a clause, which has targets, takes any of theirs. -/
theorem clauseGate_eq_ok_iff :
    (clauseGate c owner clause).result = .ok g ↔
      clause.targets ≠ [] ∧ ∃ gs, List.Forall₂
        (fun r g => (targetGate c owner clause r).result = .ok g) clause.targets gs ∧
          g = .any gs := by
  unfold clauseGate
  split
  · rename_i htargets
    simp [List.isEmpty_iff.mp htargets]
  · rename_i htargets
    simp only [Noted.result_andThen, Noted.result_each, bind_eq_ok_iff, mapM_eq_ok_iff,
      Noted.result_ok, Except.ok.injEq]
    rw [and_iff_right (mt List.isEmpty_iff.mpr htargets)]
    exact exists_congr fun gs => and_congr_right fun _ => eq_comm

/-- The gate of a definition, which has clauses, combines theirs. -/
theorem gate_eq_ok_iff {d : Definition} :
    (gate c d).result = .ok g ↔
      d.clauses ≠ [] ∧ ∃ gs, List.Forall₂
        (fun clause g => (clauseGate c (c.schema.fieldKey d.owner) clause).result = .ok g)
        d.clauses gs ∧ g = .combine d.quantifier gs := by
  unfold gate
  dsimp only
  split
  · rename_i hclauses
    simp [List.isEmpty_iff.mp hclauses]
  · rename_i hclauses
    simp only [Noted.result_andThen, Noted.result_each, bind_eq_ok_iff, mapM_eq_ok_iff,
      Noted.result_ok, Except.ok.injEq]
    rw [and_iff_right (mt List.isEmpty_iff.mpr hclauses)]
    exact exists_congr fun gs => and_congr_right fun _ => eq_comm

variable {live : Live} {b : Bool}

private theorem outcome_fieldGate {target : FieldTarget}
    (hr : Reads c.schema c.config.trimReferences f d clause)
    (hparse : c.schema.parse c.config.trimReferences f.owner text = .ok ⟨.field target, text⟩)
    (hg : (fieldGate c owner clause ⟨target, text⟩).result = .ok g) :
    g.outcome live = .ok b ↔ c.setting.Says live f.owner d text b := by
  obtain ⟨e, conditions, hentry, hconditions, rfl⟩ := fieldGate_spec hg
  rw [hr.conditions_eq] at hconditions
  rw [outcome_field]
  constructor
  · rintro ⟨value, hlive, hmatches⟩
    exact .field hparse hentry hr.patterns hconditions hlive hmatches
  · rintro (⟨hparse', hentry', hpatterns', hconditions', hlive, hmatches⟩ | ⟨hparse'⟩)
    · cases hparse.symm.trans hparse'
      cases hentry.symm.trans hentry'
      cases hr.patterns.symm.trans hpatterns'
      cases hconditions.symm.trans hconditions'
      exact ⟨_, hlive, hmatches⟩
    · cases hparse.symm.trans hparse'

private theorem names_of_reads {refs : List FieldReference} {texts : List String}
    {site : List BoundEntry} {base : TypeId}
    (hrefs : List.Forall₂
      (fun t r => c.schema.parseField c.config.trimReferences base t = .ok r) texts refs)
    (hsite : List.Forall₂ (fun (r : FieldReference) (b : BoundEntry) =>
      EntryTable.place? (c.setting.registered r.target.field) r.target.index.toInt = some b.entry)
      refs site) :
    List.Forall₂ (c.setting.Names base) texts (site.map BoundEntry.entry) :=
  List.forall₂_map_right_iff.mpr (forall₂_comp hrefs hsite fun _ _ r _ hr hb => ⟨r, hr, hb⟩)

private theorem outcome_handlerGate {id : MethodId} (hs : c.schema.Sound)
    (htable : (HandlerTable.build c.toContext).result = .ok c.handlers)
    (hr : Reads c.schema c.config.trimReferences f d clause)
    (hparse : c.schema.parse c.config.trimReferences f.owner text = .ok ⟨.method id, text⟩)
    (hg : (handlerGate c owner clause id text).result = .ok g) :
    g.outcome live = .ok b ↔ c.setting.Says live f.owner d text b := by
  obtain ⟨h, site, hget, hsite, hbind⟩ := handlerGate_spec hg
  obtain ⟨howner, m, spec, hmethod, hspec, hmade⟩ := HandlerTable.made_of_get? hs htable hget
  -- a gate that was bound beforehand is no different from one bound at the site
  obtain ⟨literals, hliterals, rfl⟩ :=
    Handler.bindAll_eq_ok_iff.mp (Handler.bindAll_of_bind hmade.default_bound hbind)
  obtain rfl : m.id = id := hs.id_of_method? hmethod
  have hconstants : List.Forall₂ (c.setting.Names m.id.owner) spec.constParams
      (h.constArguments.map BoundEntry.entry) := List.forall₂_map_right_iff.mpr hmade.constants
  have hnamed := names_of_reads hr.arguments hsite
  rw [hr.staticArguments_eq, hmade.signature_eq, List.map_append] at hliterals
  rw [outcome_call, hmade.body_eq, hmade.signature_eq, List.map_append]
  constructor
  · rintro ⟨values, hlive, hbody⟩
    exact .handler hparse howner hmethod hspec hconstants hnamed hliterals hlive hbody
  · rintro (⟨hparse'⟩ |
      ⟨hparse', -, hmethod', hspec', hconstants', hsite', hliterals', hlive, hbody⟩)
    · cases hparse.symm.trans hparse'
    · -- the target is read in one way only, so it speaks of the same call
      cases hparse.symm.trans hparse'
      cases hmethod.symm.trans hmethod'
      cases hspec.symm.trans hspec'
      cases Setting.names_unique hconstants hconstants'
      cases Setting.names_unique hnamed hsite'
      cases hliterals.symm.trans hliterals'
      exact ⟨_, hlive, hbody⟩

private theorem outcome_targetGate (hs : c.schema.Sound)
    (htable : (HandlerTable.build c.toContext).result = .ok c.handlers)
    (hr : Reads c.schema c.config.trimReferences f d clause)
    (hparse : c.schema.parse c.config.trimReferences f.owner text = .ok r)
    (hg : (targetGate c owner clause r).result = .ok g) :
    g.outcome live = .ok b ↔ c.setting.Says live f.owner d text b := by
  obtain ⟨target, text'⟩ := r
  obtain rfl : text' = text := Schema.text_eq_of_parse hparse
  cases target with
  | field target => exact outcome_fieldGate hr hparse hg
  | method id => exact outcome_handlerGate hs htable hr hparse hg

private theorem decides_clauseGate (hs : c.schema.Sound)
    (htable : (HandlerTable.build c.toContext).result = .ok c.handlers)
    (hclause : parseClause c.schema c.config.trimReferences f d = .ok clause)
    (hg : (clauseGate c owner clause).result = .ok g) (ha : c.setting.Answered live f.owner d) :
    Requirement.Decides (Question.answer live) g (c.setting.Satisfied live f.owner d) := by
  have hr := reads_of_parseClause hclause
  obtain ⟨-, gs, hgs, rfl⟩ := clauseGate_eq_ok_iff.mp hg
  refine Requirement.decides_combine (q := .any) (forall₂_comp hr.targets hgs ?_)
  intro text hmem r g hparse hg
  obtain ⟨b, hb⟩ := ha text hmem
  have hout := (outcome_targetGate hs htable hr hparse hg).mpr hb
  refine ⟨b, hout, ?_⟩
  rw [← outcome_targetGate hs htable hr hparse hg, hout, Except.ok.injEq]

/-- The gate of a declaration decides what its quantifier says about its clauses. -/
theorem decides_gate {d : Declaration} {defn : Definition} (hs : c.schema.Sound)
    (htable : (HandlerTable.build c.toContext).result = .ok c.handlers)
    (hparse : parse c.schema c.config.trimReferences f d = .ok defn)
    (hg : (gate c defn).result = .ok g) (ha : ∀ m ∈ d.members, c.setting.Answered live f.owner m) :
    Requirement.Decides (Question.answer live) g
      (d.quantifier.Over (c.setting.Satisfied live f.owner) d.members) := by
  obtain ⟨clauses, hclauses, ⟨⟩⟩ := bind_eq_ok_iff.mp hparse
  rw [mapM_eq_ok_iff] at hclauses
  obtain ⟨-, gs, hgs, rfl⟩ := gate_eq_ok_iff.mp hg
  refine Requirement.decides_combine (forall₂_comp hclauses hgs ?_)
  intro m hm clause g hclause hg
  exact decides_clauseGate hs htable hclause hg (ha m hm)

end Definition

end FieldGate
