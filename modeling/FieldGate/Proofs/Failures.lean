import FieldGate.Proofs.Assembly
import FieldGate.Proofs.ConditionSets
import FieldGate.Proofs.HandlerTable

/-! How the gates of a build can fail. Where all registered entries are there with values of the
kinds of their types, conditions have answers and calls are made, so only the body of a handler can
fail. -/
namespace FieldGate

/-- Conditions built for a type have an answer for every value of its kind. -/
theorem ConditionSet.exists_matches? [PatternEngine] {type : ValueType} {v : Value} {literals : List String}
    {patterns : List CompiledPattern} {s : ConditionSet}
    (h : build type literals patterns = .ok s) (hv : type.admits v = true) (target : String) :
    ∃ b, s.matches? target v = .ok b := by
  rcases matches?_cases h target v with ⟨-, hcompares, -⟩ | ⟨-, b, hb, -⟩
  · rw [ValueType.compares_of_admits hv] at hcompares
    cases hcompares
  · exact ⟨b, hb⟩

namespace Requirement

variable {α ε : Type} {answer : α → Except ε Bool} {P : ε → Prop} {r : Requirement α}
  {rs : List (Requirement α)}

/-- Whenever the check of a requirement fails, it is with an error of some kind. -/
def FailsOnly (answer : α → Except ε Bool) (P : ε → Prop) (r : Requirement α) : Prop :=
  ∀ e, (check answer r).outcome = .error e → P e

private theorem failsOnly_checkEach {q : Quantifier} {found : Bool}
    (h : ∀ r ∈ rs, FailsOnly answer P r) {e : ε}
    (he : (checkEach answer q found rs).outcome = .error e) : P e := by
  induction rs generalizing found with
  | nil => cases he
  | cons r rs ih =>
    obtain ⟨hr, hrs⟩ := List.forall_mem_cons.mp h
    rw [checkEach_cons, Checked.outcome_andThen] at he
    rcases bind_eq_error_iff.mp he with he | ⟨b, -, he⟩
    · exact hr e he
    · cases hs : q.settled? found b with
      | some verdict =>
        rw [proceed_of_settled hs] at he
        cases he
      | none =>
        rw [proceed_of_open hs] at he
        exact ih hrs he

/-- A combination fails only as its members do. -/
theorem failsOnly_combine {q : Quantifier} (h : ∀ r ∈ rs, FailsOnly answer P r) :
    FailsOnly answer P (combine q rs) := by
  intro e he
  rw [check_combine] at he
  exact failsOnly_checkEach h he

end Requirement

namespace EntryTable

variable {t : EntryTable} {f : FieldId} {es : List EntryId} {e : EntryId}

theorem holds_of_entries? (h : t.entries? f = some es) (he : e ∈ es) : t.holds e = true := by
  obtain ⟨before, after, hfields, -⟩ := List.lookup_eq_some_iff.mp h
  have hmem : (f, es) ∈ t.fields := by
    rw [hfields]
    exact List.mem_append_right _ List.mem_cons_self
  exact List.any_eq_true.mpr ⟨(f, es), hmem, List.contains_iff_mem.mpr he⟩

/-- The table holds on to the entries that references lead to. -/
theorem holds_of_place? {i : Int} (h : place? (t.entries f) i = some e) : t.holds e = true := by
  have hmem : e ∈ t.entries f := by
    simp only [place?, Option.ite_none_left_eq_some] at h
    exact List.mem_of_getElem? h.2
  unfold entries at hmem
  cases hes : t.entries? f with
  | none =>
    rw [hes] at hmem
    cases hmem
  | some es =>
    rw [hes] at hmem
    exact holds_of_entries? hes hmem

end EntryTable

/-- A failure of a handler of a schema, by a key that a report lists. -/
def Report.Excuses (report : Report) (s : Schema) (error : CheckError) : Prop :=
  ∃ m ∈ s.handlerMethods, s.methodKey m.id ∈ report.handlers ∧
    ∃ reason, error = .handlerFailed (s.methodKey m.id) reason

section Arguments

variable {live : Live}

private theorem exists_readAll {arguments : List Argument}
    (h : ∀ a ∈ arguments, ∃ v, a.read live = .ok v) :
    ∃ values, Argument.readAll live arguments = .ok values := by
  induction arguments with
  | nil => exact ⟨[], rfl⟩
  | cons a arguments ih =>
    obtain ⟨⟨v, hv⟩, hrest⟩ := List.forall_mem_cons.mp h
    obtain ⟨values, hvalues⟩ := ih hrest
    refine ⟨v :: values, ?_⟩
    rw [Argument.readAll, hv, hvalues]
    rfl

/-- A call whose entries are all there fails only as its body does. -/
theorem Call.eq_handlerFailed_of_answer {k : Call} {e : CheckError}
    (h : ∀ a ∈ k.arguments, ∃ v, a.read live = .ok v) (he : k.answer live = .error e) :
    ∃ reason, e = .handlerFailed k.key reason := by
  obtain ⟨values, hvalues⟩ := exists_readAll h
  unfold answer at he
  rw [hvalues] at he
  cases hbody : k.body (k.pack values) with
  | ok b => simp [hbody, Except.mapError] at he
  | error reason =>
    simp only [hbody, Except.mapError, Except.error.injEq] at he
    exact ⟨reason, he.symm⟩

end Arguments

variable [PatternEngine]

/-- Every entry that a table holds on to is there, with a value of the kind of its type. -/
def EntryTable.Fits (t : EntryTable) (typeOf : EntryId → ValueType) (live : Live) : Prop :=
  ∀ e, t.holds e = true → ∃ v, live e = some v ∧ (typeOf e).admits v = true

namespace Definition

variable {c : Context} {clause : Clause} {owner : String} {g : Gate} {live : Live}
  {P : CheckError → Prop}

private theorem failsOnly_fieldGate {r : FieldReference} (hlive : c.entries.Fits c.typeOf live)
    (hg : (fieldGate c owner clause r).result = .ok g) :
    Requirement.FailsOnly (Question.answer live) P g := by
  obtain ⟨e, conditions, hplace, hconditions, rfl⟩ := fieldGate_spec hg
  obtain ⟨v, hv, hadmits⟩ := hlive e (EntryTable.holds_of_place? hplace)
  obtain ⟨b, hb⟩ := ConditionSet.exists_matches? hconditions hadmits r.text
  intro error herror
  have hanswer : Question.answer live (.field r.text e conditions) = .ok b := by
    rw [Question.answer, hv]
    exact hb
  cases hanswer.symm.trans herror

variable (hlive : c.entries.Fits c.typeOf live)
  (htable : (HandlerTable.build c.toContext).result = .ok c.handlers)
  (hP : ∀ m ∈ c.schema.handlerMethods, c.schema.methodKey m.id ∈ c.handlers.keys →
    ∀ reason, P (.handlerFailed (c.schema.methodKey m.id) reason))
include hlive htable hP

private theorem failsOnly_handlerGate {id : MethodId} {text : String}
    (hg : (handlerGate c owner clause id text).result = .ok g) :
    Requirement.FailsOnly (Question.answer live) P g := by
  obtain ⟨h, site, hget, hsite, hbind⟩ := handlerGate_spec hg
  have hmem : h ∈ c.handlers.handlers := List.mem_of_find?_eq_some hget
  obtain ⟨m, hm, spec, -, hmade⟩ := HandlerTable.made_of_mem htable hmem
  obtain ⟨literals, -, rfl⟩ :=
    Handler.bindAll_eq_ok_iff.mp (Handler.bindAll_of_bind hmade.default_bound hbind)
  have hthere : ∀ b ∈ h.constArguments ++ site, ∃ v, live b.entry = some v := by
    intro b hb
    have hheld : c.entries.holds b.entry = true := by
      rcases List.mem_append.mp hb with hb | hb
      · obtain ⟨_, -, r, -, hplace⟩ := exists_left_of_mem hmade.constants hb
        exact EntryTable.holds_of_place? hplace
      · obtain ⟨r, -, hplace⟩ := exists_left_of_mem hsite hb
        exact EntryTable.holds_of_place? hplace
    obtain ⟨v, hv, -⟩ := hlive b.entry hheld
    exact ⟨v, hv⟩
  intro error herror
  obtain ⟨reason, rfl⟩ := Call.eq_handlerFailed_of_answer (by
    intro a ha
    rcases List.mem_append.mp ha with ha | ha
    · obtain ⟨b, hb, rfl⟩ := List.mem_map.mp ha
      obtain ⟨v, hv⟩ := hthere b hb
      exact ⟨v, by simp [Argument.read, hv]⟩
    · obtain ⟨v, -, rfl⟩ := List.mem_map.mp ha
      exact ⟨v, rfl⟩) herror
  have hkey : h.key ∈ c.handlers.keys := 
    (HandlerTable.build_eq_ok_iff.mp htable).2.keys_perm.mem_iff.mpr (List.mem_map_of_mem hmem)
  have hP' := hP m hm (hmade.key_eq ▸ hkey) reason
  rwa [← hmade.key_eq] at hP'

/-- The gate of a target fails only as its handler does. -/
theorem failsOnly_targetGate {r : Reference} (hg : (targetGate c owner clause r).result = .ok g) :
    Requirement.FailsOnly (Question.answer live) P g := by
  unfold targetGate at hg
  split at hg
  · exact failsOnly_handlerGate hlive htable hP hg
  · exact failsOnly_fieldGate hlive hg

end Definition

namespace Manager

variable {m : Manager} {typeOf : EntryId → ValueType} {report : Report} {installs : List Install}
  {live : Live}

/-- What is installed fails only as the handlers do that the report lists. -/
theorem failsOnly_of_resolve (h : (m.resolve typeOf).result = .ok (report, installs))
    (hlive : m.entries.Fits typeOf live) {i : Install} (hi : i ∈ installs) :
    Requirement.FailsOnly (Question.answer live) (report.Excuses m.schema) i.gate := by
  refine of_mem_installs (fun q gs _ => Requirement.failsOnly_combine) h ?_ hi
  intro table htable hkeys owner clause r g hg
  refine Definition.failsOnly_targetGate (c := ⟨m.basis typeOf, table⟩) hlive htable ?_ hg
  exact fun d hd hkey reason => ⟨d, hd, hkeys ▸ hkey, reason, rfl⟩

end Manager

end FieldGate
