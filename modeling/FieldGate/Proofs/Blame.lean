import FieldGate.Proofs.Canonical
import FieldGate.Proofs.Deregistration
import FieldGate.Proofs.Meaning
import FieldGate.Proofs.Reordering

/-! Which error a failing build returns. That of the handlers comes first; otherwise it is the error
of the first source that does not resolve, and it is reported on that field. -/
namespace FieldGate

/-- The reference is defective, rather than naming nothing. -/
def ReferenceDefect.Malformed (d : ReferenceDefect) : Prop := d.isUnresolved = false

namespace Cursor

theorem malformed_identifier (c : Cursor) : FailsAs ReferenceDefect.Malformed c.identifier := by
  unfold identifier
  split
  · exact failsAs_error rfl
  · split
    · exact failsAs_ok _
    · split <;> exact failsAs_error rfl

theorem malformed_names (fuel : Nat) (path : List String) (c : Cursor) :
    FailsAs ReferenceDefect.Malformed (names fuel path c) := by
  induction fuel generalizing path c with
  | zero => exact failsAs_ok _
  | succ fuel ih =>
    unfold names
    split
    · split
      · exact ih _ _
      · rename_i hname
        exact failsAs_error (malformed_identifier _ _ hname)
    · exact (malformed_identifier _).map _
    · exact failsAs_ok _

theorem malformed_head (c : Cursor) : FailsAs ReferenceDefect.Malformed c.head := by
  unfold head
  split
  · exact (malformed_identifier _).map _
  · split
    · rename_i hname
      exact failsAs_error (malformed_identifier _ _ hname)
    · split
      · rename_i hnames
        exact failsAs_error (malformed_names _ _ _ _ hnames)
      · exact failsAs_ok _
      · exact failsAs_ok _

theorem malformed_parameters (offset : Nat) (parts : List (List Char)) :
    FailsAs ReferenceDefect.Malformed (parameters offset parts) := by
  induction parts generalizing offset with
  | nil => exact failsAs_ok []
  | cons part parts ih =>
    unfold parameters
    dsimp only
    split
    · exact failsAs_error rfl
    · exact (ih _).map _

theorem malformed_descriptor (c : Cursor) : FailsAs ReferenceDefect.Malformed c.descriptor := by
  unfold descriptor
  dsimp only
  split
  · exact failsAs_error rfl
  · split
    · exact failsAs_ok _
    · exact (malformed_parameters _ _).map _
  · exact failsAs_error rfl

theorem malformed_index (c : Cursor) : FailsAs ReferenceDefect.Malformed c.index := by
  unfold index
  dsimp only
  split
  · exact failsAs_error rfl
  · split
    · exact failsAs_ok _
    · exact failsAs_error rfl
  · exact failsAs_error rfl

theorem malformed_optional {α : Type} {read : Cursor → Scanned α}
    (h : ∀ c, FailsAs ReferenceDefect.Malformed (read c)) (sign : Char) (c : Cursor) :
    FailsAs ReferenceDefect.Malformed (optional sign read c) := by
  unfold optional
  split
  · exact (h c).map _
  · exact failsAs_ok _

end Cursor

namespace RawReference

/-- No schema has a part in scanning, so it never finds that a reference names nothing. -/
theorem malformed_scanFrom (c : Cursor) : FailsAs ReferenceDefect.Malformed (scanFrom c) := by
  unfold scanFrom
  by_cases hc : c.rest.isEmpty = true
  · rw [if_pos hc]
    exact failsAs_error rfl
  · rw [if_neg hc]
    refine c.malformed_head.bind fun ⟨⟨_, _⟩, c⟩ _ => ?_
    refine (Cursor.malformed_optional Cursor.malformed_descriptor '(' c).bind fun ⟨_, c⟩ _ => ?_
    refine (Cursor.malformed_optional Cursor.malformed_index '[' c).bind fun ⟨_, c⟩ _ => ?_
    dsimp only
    split
    · exact failsAs_ok _
    · exact failsAs_error rfl

theorem malformed_scan (trim : Bool) (text : List Char) :
    FailsAs ReferenceDefect.Malformed (scan trim text) := by
  unfold scan
  split <;> exact malformed_scanFrom _

end RawReference

namespace Schema

variable {s : Schema} {trim : Bool} {base : TypeId} {text : String}

/-- A text that is well formed as a reference, whatever it names. -/
def WellFormed (trim : Bool) (text : String) : Prop :=
  ∃ raw, RawReference.scan trim text.toList = .ok raw

def Misreads (trim : Bool) (text : String) (e : ReferenceError) : Prop :=
  e.reference = text ∧ (e.isUnresolved = true → WellFormed trim text)

theorem misreads_parse (s : Schema) (trim : Bool) (base : TypeId) (text : String) :
    FailsAs (Misreads trim text) (s.parse trim base text) := by
  unfold parse
  split
  · rename_i d hscan
    have hmalformed : d.isUnresolved = false := RawReference.malformed_scan _ _ d hscan
    refine failsAs_error ⟨rfl, fun hunresolved => ?_⟩
    cases hmalformed.symm.trans hunresolved
  · rename_i raw hscan
    split
    · exact failsAs_error ⟨rfl, fun _ => ⟨raw, hscan⟩⟩
    · exact failsAs_ok _

theorem text_of_parse {r : Reference} (h : s.parse trim base text = .ok r) :
    r.text = text ∧ WellFormed trim text := by
  obtain ⟨raw, -, -, hraw, -, -, -, htext⟩ := parse_eq_ok_iff.mp h
  exact ⟨htext, raw, hraw⟩

theorem misreads_parseField (s : Schema) (trim : Bool) (base : TypeId) (text : String) :
    FailsAs (Misreads trim text) (s.parseField trim base text) := by
  unfold parseField
  split
  · rename_i hparse
    exact failsAs_error (misreads_parse s trim base text _ hparse)
  · exact failsAs_ok _
  · rename_i hparse
    obtain ⟨htext, hwell⟩ := text_of_parse hparse
    exact failsAs_error ⟨htext, fun _ => hwell⟩

/-- A text that is read is well formed and kept with what was read. -/
theorem text_of_parseField {r : FieldReference} (h : s.parseField trim base text = .ok r) :
    r.text = text ∧ WellFormed trim text := by
  unfold parseField at h
  split at h
  · cases h
  · rename_i hparse
    cases h
    exact text_of_parse hparse
  · cases h

/-- A text among the targets and the arguments that a field declares, well formed as a
reference. -/
def Writes (s : Schema) (trim : Bool) (f : FieldId) (text : String) : Prop :=
  (∃ d ∈ s.declarationsOf f, ∃ m ∈ d.members, text ∈ m.targets ∨ text ∈ m.arguments) ∧
    WellFormed trim text

end Schema

namespace BuildError

def owner? : BuildError → Option String
  | reference owner _ => some owner
  | danglingReference owner _ => some owner
  | condition owner _ _ => some owner
  | lookup owner _ => some owner
  | handler _ => none
  | handlerSite owner _ => some owner
  | ignoredConditions owner _ => some owner
  | emptyRequirement owner => some owner
  | alreadyBuilt => none
  | registrationClosed _ => none

/-- The error is reported on the owner, and a reference that dangles is one of the given texts. -/
structure Blames (owner : String) (texts : String → Prop) (e : BuildError) : Prop where
  owner_eq : e.owner? = some owner
  dangling : ∀ o text, e = .danglingReference o text → texts text

theorem blames_dangling {owner text : String} {texts : String → Prop} (h : texts text) :
    (danglingReference owner text).Blames owner texts where
  owner_eq := rfl
  dangling := by
    intro o text' he
    cases he
    exact h

end BuildError

namespace Definition

open BuildError (Blames)

variable {trim : Bool} {owner : String} {texts : String → Prop}

private theorem blames_referenceError {text : String} {e : ReferenceError}
    (he : Schema.Misreads trim text e) (ht : Schema.WellFormed trim text → texts text) :
    (referenceError owner e).Blames owner texts := by
  unfold referenceError
  split
  · rename_i hunresolved
    rw [he.1]
    exact BuildError.blames_dangling (ht (he.2 hunresolved))
  · exact ⟨rfl, by simp⟩

variable [PatternEngine] {c : Context} {s : Schema} {f : FieldId} {clause : Clause}

/-- The well-formed ones among the targets and arguments of a member are among the texts. -/
def Covers (trim : Bool) (texts : String → Prop) (d : Dependency) : Prop :=
  ∀ text, (text ∈ d.targets ∨ text ∈ d.arguments) → Schema.WellFormed trim text → texts text

theorem blames_parseClause {d : Dependency} (hd : Covers trim texts d) :
    FailsAs (Blames (s.fieldKey f) texts) (parseClause s trim f d) := by
  unfold parseClause
  refine (failsAs_mapM fun t ht => ?_).bind fun targets _ => ?_
  · exact (s.misreads_parse trim f.owner t).mapError fun e he =>
      blames_referenceError he (hd t (.inl ht))
  refine (failsAs_mapM fun t ht => ?_).bind fun arguments _ => ?_
  · exact (s.misreads_parseField trim f.owner t).mapError fun e he =>
      blames_referenceError he (hd t (.inr ht))
  exact (failsAs_mapError (fun e => ⟨rfl, by simp⟩) _).bind fun patterns _ => failsAs_ok _

/-- What a clause refers to is among the texts. -/
structure Cites (texts : String → Prop) (clause : Clause) : Prop where
  targets : ∀ r ∈ clause.targets, texts r.text
  arguments : ∀ r ∈ clause.arguments, texts r.text

/-- What a clause cites are texts of the member that it is read from. -/
theorem cites_of_parseClause {d : Dependency} (hd : Covers trim texts d)
    (h : parseClause s trim f d = .ok clause) : Cites texts clause := by
  have hr := reads_of_parseClause h
  constructor
  · intro r hmem
    obtain ⟨t, ht, hparse⟩ := exists_left_of_mem hr.targets hmem
    obtain ⟨rfl, hwell⟩ := Schema.text_of_parse hparse
    exact hd _ (.inl ht) hwell
  · intro r hmem
    obtain ⟨t, ht, hparse⟩ := exists_left_of_mem hr.arguments hmem
    obtain ⟨rfl, hwell⟩ := Schema.text_of_parseField hparse
    exact hd _ (.inr ht) hwell

private theorem blames_lookupEntry {r : FieldReference} (ht : texts r.text) :
    FailsAs (Blames owner texts) (lookupEntry c owner r) := by
  unfold lookupEntry EntryTable.entry EntryTable.locate
  split
  · exact failsAs_error (BuildError.blames_dangling ht)
  · exact failsAs_error ⟨rfl, by simp⟩
  · split
    · exact failsAs_ok _
    · exact failsAs_error ⟨rfl, by simp⟩

private theorem blames_fieldGate {r : FieldReference} (ht : texts r.text) :
    FailsAs (Blames owner texts) (fieldGate c owner clause r).result := by
  rw [result_fieldGate]
  refine (blames_lookupEntry ht).bind fun e _ => ?_
  exact (failsAs_mapError (fun e => ⟨rfl, by simp⟩) _).bind fun conditions _ => failsAs_ok _

private theorem blames_handlerGate {id : MethodId} {text : String} (hc : Cites texts clause)
    (ht : texts text) :
    FailsAs (Blames owner texts) (handlerGate c owner clause id text).result := by
  rw [result_handlerGate]
  split
  · exact failsAs_error (BuildError.blames_dangling ht)
  · split
    · exact failsAs_error ⟨rfl, by simp⟩
    · refine FailsAs.bind (failsAs_mapM fun r hr => ?_) fun site _ => ?_
      · exact (blames_lookupEntry (hc.arguments r hr)).map _
      · exact failsAs_mapError (fun e => ⟨rfl, by simp⟩) _

theorem blames_clauseGate (hc : Cites texts clause) :
    FailsAs (Blames owner texts) (clauseGate c owner clause).result := by
  unfold clauseGate
  split
  · exact failsAs_error ⟨rfl, by simp⟩
  · rw [Noted.result_andThen, Noted.result_each]
    refine FailsAs.bind (failsAs_mapM fun r hr => ?_) fun gs _ => failsAs_ok _
    unfold targetGate
    split
    · exact blames_handlerGate hc (hc.targets r hr)
    · exact blames_fieldGate (hc.targets r hr)

theorem blames_gate {d : Definition} (hd : ∀ clause ∈ d.clauses, Cites texts clause) :
    FailsAs (Blames (c.schema.fieldKey d.owner) texts) (gate c d).result := by
  unfold gate
  dsimp only
  split
  · exact failsAs_error ⟨rfl, by simp⟩
  · rw [Noted.result_andThen, Noted.result_each]
    refine FailsAs.bind (failsAs_mapM fun clause hclause => ?_) fun gs _ => failsAs_ok _
    exact blames_clauseGate (hd clause hclause)

end Definition

namespace Manager

open BuildError (Blames)

private theorem sources_governing (m : Manager) :
    m.governing.flatMap Governed.sources = m.governed.flatMap Governed.sources := by
  unfold governing
  induction m.governed with
  | nil => rfl
  | cons g gs ih =>
    rw [List.filter_cons, List.flatMap_cons, ← ih]
    cases hg : g.sources with
    | nil => simp
    | cons f fs => simp [hg]

variable [PatternEngine] {m : Manager} {c : Definition.Context} {known : Resolved} {f : FieldId}
  {fs : List FieldId} {e : BuildError}

def Resolves (c : Definition.Context) (f : FieldId) : Prop :=
  ∀ d ∈ c.schema.declarationsOf f,
    ∃ defn gate, Definition.parse c.schema c.config.trimReferences f d = .ok defn ∧
      (Definition.gate c defn).result = .ok gate

theorem exists_resolveField_iff (hs : c.schema.Sound) :
    (∃ gs, (resolveField c f).result = .ok gs) ↔ Resolves c f := by
  constructor
  · rintro ⟨gs, hgs⟩ d hd
    obtain ⟨⟨a, gate⟩, -, -, defn, hparse, hgate⟩ := (mem_of_resolveField hs hgs).2 d hd
    exact ⟨defn, gate, hparse, hgate⟩
  · intro h
    unfold resolveField
    cases hd : c.schema.field? f with
    | none => exact ⟨[], rfl⟩
    | some fd =>
      have hdecl := Schema.declarationsOf_of_field? hd
      obtain rfl : fd.id = f := hs.id_of_field? hd
      rw [Resolves, hdecl] at h
      have hparsed : ∃ defns, Definition.parseAll c.schema c.config.trimReferences fd =
          .ok defns := by
        simp only [Definition.parseAll, mapM_eq_ok_iff, exists_forall₂_iff]
        intro d hd
        obtain ⟨defn, -, hparse, -⟩ := h d hd
        exact ⟨defn, hparse⟩
      obtain ⟨defns, hdefns⟩ := hparsed
      have hbuilt : ∃ gs, defns.mapM (fun defn =>
          (Definition.gate c defn).result >>= fun gate => .ok (defn.action, gate)) = .ok gs := by
        simp only [mapM_eq_ok_iff, exists_forall₂_iff, bind_eq_ok_iff]
        intro defn hdefn
        obtain ⟨d, hd, hparse⟩ := exists_of_mem_mapM hdefns hdefn
        obtain ⟨defn', gate, hparse', hgate⟩ := h d hd
        cases hparse.symm.trans hparse'
        exact ⟨_, gate, hgate, rfl⟩
      obtain ⟨gs, hgs⟩ := hbuilt
      refine ⟨gs, ?_⟩
      simp only [Noted.result_andThen, Noted.result_ofExcept, Noted.result_each, hdefns]
      exact hgs

/-- A field that does not resolve is blamed for it, in words that it declares. -/
theorem blames_resolveField (hs : c.schema.Sound) (f : FieldId) :
    FailsAs (Blames (c.schema.fieldKey f) (c.schema.Writes c.config.trimReferences f))
      (resolveField c f).result := by
  unfold resolveField
  cases hd : c.schema.field? f with
  | none => exact failsAs_ok []
  | some fd =>
    have hdecl := Schema.declarationsOf_of_field? hd
    obtain rfl : fd.id = f := hs.id_of_field? hd
    have hcovers {d : Declaration} (hd : d ∈ fd.declarations) {member : Dependency}
        (hmember : member ∈ d.members) : Definition.Covers c.config.trimReferences
          (c.schema.Writes c.config.trimReferences fd.id) member := by
      intro text htext hwell
      exact ⟨⟨d, hdecl ▸ hd, member, hmember, htext⟩, hwell⟩
    simp only [Noted.result_andThen, Noted.result_ofExcept, Noted.result_each]
    refine FailsAs.bind (failsAs_mapM fun d hd => ?_) fun defns hdefns => ?_
    · refine FailsAs.bind (failsAs_mapM fun member hmember => ?_) fun clauses _ => failsAs_ok _
      exact Definition.blames_parseClause (hcovers hd hmember)
    · refine failsAs_mapM fun defn hdefn => FailsAs.bind ?_ fun gate _ => failsAs_ok _
      obtain ⟨d, hd, hparse⟩ := exists_of_mem_mapM hdefns hdefn
      obtain ⟨clauses, hclauses, ⟨⟩⟩ := bind_eq_ok_iff.mp hparse
      refine Definition.blames_gate (d := ⟨fd.id, d.action, d.quantifier, clauses⟩) ?_
      intro clause hclause
      obtain ⟨member, hmember, hread⟩ := exists_of_mem_mapM hclauses hclause
      exact Definition.cites_of_parseClause (hcovers hd hmember) hread

def FirstFails (c : Definition.Context) (fs : List FieldId) (e : BuildError) : Prop :=
  ∃ before f after, fs = before ++ f :: after ∧
    (∀ g ∈ before, ∃ gs, (resolveField c g).result = .ok gs) ∧
    (resolveField c f).result = .error e

private theorem FirstFails.cons (h : FirstFails c fs e) {gs : FieldGates}
    (hf : (resolveField c f).result = .ok gs) : FirstFails c (f :: fs) e := by
  obtain ⟨before, g, after, rfl, hbefore, hg⟩ := h
  exact ⟨f :: before, g, after, rfl, List.forall_mem_cons.mpr ⟨⟨gs, hf⟩, hbefore⟩, hg⟩

/-- What is known already has no part in which field fails first. -/
theorem firstFails_of_resolveEach (h : (resolveEach c known fs).result = .error e)
    (hk : Faithful c known) : FirstFails c fs e := by
  induction fs generalizing known with
  | nil => cases h
  | cons f fs ih =>
    unfold resolveEach at h
    split at h
    · rename_i hknown
      obtain ⟨gs, hgs⟩ := Option.isSome_iff_exists.mp hknown
      exact (ih h hk).cons (hk f gs hgs)
    · rw [Noted.result_andThen] at h
      rcases bind_eq_error_iff.mp h with hf | ⟨gs, hgs, h⟩
      · exact ⟨[], f, fs, rfl, by simp, hf⟩
      · exact (ih h (hk.concat hgs)).cons hgs

section Resolution

variable {typeOf : EntryId → ValueType} {table : HandlerTable}

/-- A resolution fails because the handlers do, or a source once they are made. -/
theorem resolve_eq_error_iff :
    (m.resolve typeOf).result = .error e ↔
      (∃ e', (HandlerTable.build (m.basis typeOf)).result = .error e' ∧ e = .handler e') ∨
      ∃ table, (HandlerTable.build (m.basis typeOf)).result = .ok table ∧
        (resolveEach ⟨m.basis typeOf, table⟩ [] (m.governed.flatMap Governed.sources)).result =
          .error e := by
  simp only [resolve, Noted.result_andThen, Noted.result_mapError, bind_eq_error_iff,
    mapError_eq_error_iff, mapError_eq_ok_iff, Noted.result_ok, reduceCtorEq, and_false,
    exists_false, or_false, sources_governing]
  rfl

/-- With its handlers made, a resolution fails with the error of the first source that does not
resolve. -/
theorem exists_source_of_resolve_error (hs : m.schema.Sound)
    (htable : (HandlerTable.build (m.basis typeOf)).result = .ok table)
    (h : (m.resolve typeOf).result = .error e) :
    ∃ before f after, m.governed.flatMap Governed.sources = before ++ f :: after ∧
      (∀ g ∈ before, Resolves ⟨m.basis typeOf, table⟩ g) ∧
      (resolveField ⟨m.basis typeOf, table⟩ f).result = .error e := by
  rcases resolve_eq_error_iff.mp h with ⟨e', herror, -⟩ | ⟨table', htable', heach⟩
  · cases htable.symm.trans herror
  · cases htable.symm.trans htable'
    obtain ⟨before, f, after, hsources, hbefore, hf⟩ :=
      firstFails_of_resolveEach heach (faithful_nil _)
    refine ⟨before, f, after, hsources, ?_, hf⟩
    intro g hg
    exact (exists_resolveField_iff hs).mp (hbefore g hg)

end Resolution

end Manager

namespace Surface

open Manager (Resolves)

section Engine

variable [PatternEngine] {s : Surface} {sch : Schema} {c : Config} {h : List Registration}

/-- A first build is refused just with the error of the resolution. -/
theorem refused_iff (ht : Registration.Tracks sch c h s.manager) {e : BuildError} :
    (s.ask .build).answer = .refused e ↔
      (s.manager.resolve s.entries.typeOf).result = .error e := by
  cases hr : (s.manager.resolve s.entries.typeOf).result <;>
    simp [ask, Manager.build, ht.state, hr]

/-- Whatever was asked of a manager that still takes registrations: it builds exactly if the
handlers are made and each field resolves that governs an entry. If the handlers are not made, their
error is the answer. Otherwise the answer is the error of the first source that does not resolve,
in the order of the governed entries: it is reported on that field, and a reference that dangles is
one that the field declares. -/
theorem refused_at_first (hs : sch.Buildable) (c : Config) (es : Entries) (before : List Request)
    (hopen : ((start sch c es).run before).manager.state = .registering) :
    let now := (start sch c es).run before
    let base := now.manager.basis now.entries.typeOf
    let answer := (now.ask .build).answer
    ((∃ report, answer = .report report) ↔
      ∃ table, (HandlerTable.build base).result = .ok table ∧
        ∀ f e, now.manager.Governs f e → Resolves ⟨base, table⟩ f) ∧
    (∀ e, (HandlerTable.build base).result = .error e → answer = .refused (.handler e)) ∧
    ∀ table e, (HandlerTable.build base).result = .ok table → answer = .refused e →
      ∃ earlier f later,
        now.manager.governed.flatMap Governed.sources = earlier ++ f :: later ∧
        (∀ g ∈ earlier, Resolves ⟨base, table⟩ g) ∧
        (Manager.resolveField ⟨base, table⟩ f).result = .error e ∧
        e.owner? = some (sch.fieldKey f) ∧
        ∀ owner text, e = .danglingReference owner text → sch.Writes c.trimReferences f text := by
  intro now base answer
  have hb : .build ∉ before := by
    intro hb
    obtain ⟨b, a, -, -, hrun⟩ := run_of_build (start sch c es) hb
    rw [hrun, frame_ask_build] at hopen
    cases hopen
  obtain ⟨h, ht, -⟩ := run_of_no_build sch c es hb
  have hsound : now.manager.schema.Sound := by
    rw [ht.schema]
    exact hs.sound
  refine ⟨?_, ?_, ?_⟩
  · rw [exists_report_iff ht, Manager.exists_resolve_iff]
    refine exists_congr fun table => and_congr_right fun _ => ?_
    exact forall₂_congr fun f e => imp_congr_right fun _ =>
      Manager.exists_resolveField_iff (c := ⟨base, table⟩) hsound
  · intro e htable
    exact (refused_iff ht).mpr (Manager.resolve_eq_error_iff.mpr (.inl ⟨e, htable, rfl⟩))
  · intro table e htable hanswer
    obtain ⟨earlier, f, later, hsources, hearlier, hf⟩ :=
      Manager.exists_source_of_resolve_error hsound htable ((refused_iff ht).mp hanswer)
    have hblames := Manager.blames_resolveField (c := ⟨base, table⟩) hsound f e hf
    have hschema : base.schema = sch := ht.schema
    have hconfig : base.config = c := ht.config
    rw [hschema, hconfig] at hblames
    exact ⟨earlier, f, later, hsources, hearlier, hf, hblames.owner_eq, hblames.dangling⟩

end Engine

open scoped Pattern.Engine

/-- The glow of a lamp whose power is not registered dangles, in the word that it declares. -/
theorem refused_at_glow :
    let now := (start .lamp {} {}).run [.registration (.registerDeclared ⟨⟨0⟩, 1⟩ [⟨1⟩])]
    Schema.lamp.Buildable ∧ now.manager.state = .registering ∧
      (now.ask .build).answer = .refused (.danglingReference "Lamp#glow" "power") ∧
      Schema.lamp.Writes true ⟨⟨0⟩, 1⟩ "power" := by
  intro now
  have hanswer : (now.ask .build).answer = .refused (.danglingReference "Lamp#glow" "power") := rfl
  obtain ⟨-, -, hrefused⟩ := refused_at_first Schema.buildable_lamp {} {}
    [.registration (.registerDeclared ⟨⟨0⟩, 1⟩ [⟨1⟩])] rfl
  obtain ⟨earlier, f, later, hsources, -, -, -, hdangling⟩ := hrefused _ _ rfl hanswer
  have hf : f = ⟨⟨0⟩, 1⟩ := by
    have hmem : f ∈ now.manager.governed.flatMap Governed.sources := by
      rw [hsources]
      exact List.mem_append_right _ List.mem_cons_self
    exact List.mem_singleton.mp hmem
  subst hf
  exact ⟨Schema.buildable_lamp, rfl, hanswer, hdangling _ _ rfl⟩

end Surface

end FieldGate
