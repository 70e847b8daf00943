import FieldGate.Schema.Draft
import FieldGate.Proofs.Nesting
import Mathlib.Data.List.Induction

/-! Building in place does what the pure steps do. A refused step leaves a draft as it was, and what
is drafted is a schema of the builder, indexed by its qualified names. -/
namespace FieldGate.Draft

variable {d d' : Draft} {α β : Type}

section Edits

@[simp] theorem bind_apply (edit : Edit α) (next : α → Edit β) (d : Draft) :
    (edit >>= next) d =
      match edit d with
      | .ok a d' => next a d'
      | .error e d' => .error e d' := by
  change EStateM.bind edit next d = _
  unfold EStateM.bind
  cases edit d <;> rfl

@[simp] theorem map_apply (f : α → β) (edit : Edit α) (d : Draft) :
    (f <$> edit) d =
      match edit d with
      | .ok a d' => .ok (f a) d'
      | .error e d' => .error e d' := by
  change EStateM.map f edit d = _
  unfold EStateM.map
  cases edit d <;> rfl

@[simp] theorem pure_apply (a : α) (d : Draft) : (pure a : Edit α) d = .ok a d := rfl

@[simp] theorem throw_apply (e : SchemaError) (d : Draft) :
    (throw e : Edit α) d = .error e d := rfl

@[simp] theorem get_apply (d : Draft) : (get : Edit Draft) d = .ok d d := rfl

@[simp] theorem modify_apply (f : Draft → Draft) (d : Draft) :
    (modify f : Edit Unit) d = .ok () (f d) := rfl

@[simp] theorem checked_ok (u : Unit) (d : Draft) : checked (.ok u) d = .ok () d := rfl

@[simp] theorem typeAt_apply (id : TypeId) (d : Draft) :
    typeAt id d =
      match d.schema.type? id with
      | some t => .ok t d
      | none => .error (.unknownType id.index) d := by
  have hsame : d.schema.type? id = d.types[id.index]? := rfl
  rw [typeAt, hsame]
  cases ht : d.types[id.index]? <;> simp [ht]

end Edits

/-- The index leads from each qualified name to the type that has it, and nowhere from any other
text. -/
def Indexed (d : Draft) : Prop :=
  ∀ name id, d.index.lookup name = some id ↔
    (d.types.map TypeDef.qualifiedName)[id.index]? = some name

theorem Indexed.change (hd : d.Indexed) {f : TypeDef → TypeDef}
    (hf : ∀ t, (f t).qualifiedName = t.qualifiedName) (id : TypeId) :
    Indexed { d with types := d.types.modify id.index f } := by
  intro name other
  rw [map_modify_of_eq hf]
  exact hd name other

theorem Indexed.lookup_isSome (hd : d.Indexed) (name : String) :
    (d.schema.lookup? name).isSome = (d.index.lookup name).isSome := by
  rw [Bool.eq_iff_iff, Schema.lookup?, Option.isSome_map, List.find?_isSome,
    Option.isSome_iff_exists]
  constructor
  · rintro ⟨t, ht, hname⟩
    obtain ⟨i, hi⟩ := List.mem_iff_getElem?.mp ht
    have hi' : d.types[i]? = some t := hi
    refine ⟨⟨i⟩, (hd name ⟨i⟩).mpr ?_⟩
    rw [List.getElem?_map, hi', Option.map_some, beq_iff_eq.mp hname]
  · rintro ⟨id, hid⟩
    rw [hd, List.getElem?_map] at hid
    obtain ⟨t, ht, hname⟩ := Option.map_eq_some_iff.mp hid
    exact ⟨t, List.mem_of_getElem? ht, beq_iff_eq.mpr hname⟩

private theorem getElem?_concat_eq_some_iff {as : List α} {a b : α} {i : Nat} :
    (as ++ [a])[i]? = some b ↔ as[i]? = some b ∨ (i = as.length ∧ a = b) := by
  rcases Nat.lt_trichotomy i as.length with hi | rfl | hi
  · rw [List.getElem?_append_left hi]
    simp [Nat.ne_of_lt hi]
  · simp
  · rw [List.getElem?_eq_none (Nat.le_of_lt hi), List.getElem?_eq_none]
    · simp [Nat.ne_of_gt hi]
    · rw [List.length_append, List.length_singleton]
      omega

theorem Indexed.insert (hd : d.Indexed) {t : TypeDef}
    (hfresh : d.index.lookup t.qualifiedName = none) :
    Indexed { d with index := (t.qualifiedName, ⟨d.types.length⟩) :: d.index
                     types := d.types ++ [t] } := by
  intro name id
  rw [List.lookup_cons, List.map_append, List.map_singleton, getElem?_concat_eq_some_iff,
    ← hd name id, List.length_map]
  have hid : id.index = d.types.length ↔ ⟨d.types.length⟩ = id := by
    constructor
    · intro h
      exact congrArg TypeId.mk h.symm
    · intro h
      exact congrArg TypeId.index h.symm
  by_cases hname : name = t.qualifiedName
  · subst hname
    simp [hfresh, hid]
  · simp [beq_false_of_ne hname, Ne.symm hname]

/-- What an edit makes of a draft and what a step makes of its schema. A refused edit leaves the
draft as it was. -/
inductive Agrees (d : Draft) :
    EStateM.Result SchemaError Draft α → Except SchemaError (Schema × α) → Prop
  | done (a : α) {d' : Draft} (h : d'.Indexed) : Agrees d (.ok a d') (.ok (d'.schema, a))
  | refused (e : SchemaError) : Agrees d (.error e d) (.error e)

/-- An edit does in place what a step does to a schema. -/
def Mirrors (edit : Edit α) (step : Schema → Except SchemaError (Schema × α)) : Prop :=
  ∀ d : Draft, d.Indexed → d.Agrees (edit d) (step d.schema)

variable {edit : Edit α} {step : Schema → Except SchemaError (Schema × α)}

private theorem Agrees.of_ok {r : EStateM.Result SchemaError Draft α} {s : Schema} {a : α}
    (h : d.Agrees r (.ok (s, a))) : ∃ d', r = .ok a d' ∧ d'.schema = s ∧ d'.Indexed := by
  generalize hx : (Except.ok (s, a) : Except SchemaError (Schema × α)) = x at h
  cases h with
  | done a' h =>
    cases hx
    exact ⟨_, rfl, rfl, h⟩
  | refused e => cases hx

private theorem Agrees.of_error {r : EStateM.Result SchemaError Draft α} {e : SchemaError}
    (h : d.Agrees r (.error e)) : r = .error e d := by
  cases h
  rfl

private theorem Agrees.eq_of_refused {x : Except SchemaError (Schema × α)} {e : SchemaError}
    (h : d.Agrees (.error e d') x) : d' = d := by
  cases h
  rfl

theorem Mirrors.of_ok (h : Mirrors edit step) (hd : d.Indexed) {s : Schema} {a : α}
    (hs : step d.schema = .ok (s, a)) : ∃ d', edit d = .ok a d' ∧ d'.schema = s ∧ d'.Indexed := by
  have hagrees := h d hd
  rw [hs] at hagrees
  exact hagrees.of_ok

theorem Mirrors.of_error (h : Mirrors edit step) (hd : d.Indexed) {e : SchemaError}
    (hs : step d.schema = .error e) : edit d = .error e d := by
  have hagrees := h d hd
  rw [hs] at hagrees
  exact hagrees.of_error

/-- An edit that is refused leaves the draft as it was. -/
theorem Mirrors.eq_of_refused (h : Mirrors edit step) (hd : d.Indexed) {e : SchemaError}
    (he : edit d = .error e d') : d' = d := by
  have hagrees := h d hd
  rw [he] at hagrees
  exact hagrees.eq_of_refused

section Mirrored

theorem insertType_mirrors (package name : String) (enclosing : Option TypeId)
    (qualified : String) :
    Mirrors (insertType package name enclosing qualified) fun s =>
      (s.insertType package name enclosing qualified).map (·, s.nextType) := by
  intro d hd
  unfold Schema.insertType insertType
  cases Schema.checkIdentifier name with
  | error e => exact .refused e
  | ok u =>
    simp only [bind_apply, checked_ok, get_apply, hd.lookup_isSome qualified]
    cases hlookup : d.index.lookup qualified with
    | some id => exact .refused _
    | none => exact .done _ (hd.insert hlookup)

theorem addRootType_mirrors (package name : String) :
    Mirrors (addRootType package name) fun s => s.addRootType package name := by
  intro d hd
  unfold Schema.addRootType addRootType
  dsimp only
  cases Schema.checkSegments _ with
  | error e => exact .refused e
  | ok u => exact insertType_mirrors _ _ _ _ d hd

theorem addNestedType_mirrors (parent : TypeId) (name : String) :
    Mirrors (addNestedType parent name) fun s => s.addNestedType parent name := by
  intro d hd
  unfold Schema.addNestedType addNestedType
  cases hp : d.schema.type? parent with
  | none =>
    simp only [bind_apply, typeAt_apply, hp]
    exact .refused _
  | some p =>
    simp only [bind_apply, typeAt_apply, hp]
    have hinsert := insertType_mirrors p.package name (some parent)
      (p.qualifiedName ++ "." ++ name)
    cases hs : d.schema.insertType p.package name (some parent)
      (p.qualifiedName ++ "." ++ name) with
    | error e =>
      rw [hinsert.of_error hd (congrArg _ hs)]
      exact .refused e
    | ok s =>
      obtain ⟨d', hd', rfl, hindexed⟩ := hinsert.of_ok hd (congrArg _ hs)
      rw [hd']
      exact .done _ (hindexed.change (by intro t; rfl) parent)

theorem addField_mirrors (owner : TypeId) (name : String) (type : ValueType) :
    Mirrors (addField owner name type) fun s => s.addField owner name type := by
  intro d hd
  unfold Schema.addField addField
  cases Schema.checkIdentifier name with
  | error e => exact .refused e
  | ok u =>
    simp only [bind_apply, checked_ok, typeAt_apply]
    cases d.schema.type? owner with
    | none => exact .refused _
    | some t =>
      dsimp only
      split
      · exact .refused _
      · exact .done _ (hd.change (by intro t; rfl) owner)

theorem require_mirrors (id : FieldId) (r : Declaration) :
    Mirrors (require id r) fun s => (s.require id r).map (·, ()) := by
  intro d hd
  unfold Schema.require require Schema.field?
  simp only [bind_apply, typeAt_apply]
  cases d.schema.type? id.owner with
  | none => exact .refused _
  | some t =>
    dsimp only [Option.bind_some]
    cases t.fields[id.slot]? with
    | none => exact .refused _
    | some f => exact .done _ (hd.change (by intro t; rfl) id.owner)

theorem pushMethod_mirrors (owner : TypeId) (name : String) (signature : Signature)
    (handler : Option HandlerSpec) :
    Mirrors (pushMethod owner name signature handler) fun s =>
      s.pushMethod owner name signature handler := by
  intro d hd
  unfold Schema.pushMethod pushMethod
  cases Schema.checkIdentifier name with
  | error e => exact .refused e
  | ok u =>
    simp only [bind_apply, checked_ok, typeAt_apply]
    cases d.schema.type? owner with
    | none => exact .refused _
    | some t => exact .done _ (hd.change (by intro t; rfl) owner)

theorem markHandlerType_mirrors (owner : TypeId) :
    Mirrors (markHandlerType owner) fun s => (s.markHandlerType owner).map (·, ()) := by
  intro d hd
  unfold Schema.markHandlerType markHandlerType
  simp only [bind_apply, typeAt_apply]
  cases d.schema.type? owner with
  | none => exact .refused _
  | some t =>
    have hcontains : d.schema.handlerTypes.contains owner = d.handlerTypes.contains owner := rfl
    simp only [modify_apply, Except.map, Schema.withHandlerType, hcontains]
    split
    · exact .done _ hd
    · exact .done _ hd

theorem addHandler_mirrors (owner : TypeId) (name : String) (signature : Signature)
    (spec : HandlerSpec) :
    Mirrors (addHandler owner name signature spec) fun s =>
      s.addHandler owner name signature spec := by
  intro d hd
  unfold Schema.addHandler addHandler
  have hpush := pushMethod_mirrors owner name signature (some spec)
  simp only [bind_apply]
  cases hs : d.schema.pushMethod owner name signature (some spec) with
  | error e =>
    rw [hpush.of_error hd hs]
    exact .refused e
  | ok added =>
    obtain ⟨s, id⟩ := added
    obtain ⟨d', hd', rfl, hindexed⟩ := hpush.of_ok hd hs
    obtain ⟨-, t, ht⟩ := Schema.exists_type_of_pushMethod hs
    -- the type has just got a method, so it is there to be marked
    have hmark : d'.schema.markHandlerType owner = .ok (d'.schema.withHandlerType owner) := by
      rw [Schema.markHandlerType, ht]
    obtain ⟨d'', hd'', hschema, hindexed'⟩ :=
      (markHandlerType_mirrors owner).of_ok hindexed (congrArg _ hmark)
    simp only [hd', hd'', pure_apply, Except.map, ← hschema]
    exact .done _ hindexed'

private theorem exists_addHandler {s : Schema} {owner : TypeId} {name : String} {t : TypeDef}
    (hname : isIdentifier name.toList = true) (ht : s.type? owner = some t)
    (signature : Signature) (spec : HandlerSpec) :
    ∃ s' id, s.addHandler owner name signature spec = .ok (s', id) ∧
      ∃ t', s'.type? owner = some t' := by
  have hcheck := Schema.check_of_isIdentifier hname
  have hpush : ∃ s' id, s.pushMethod owner name signature (some spec) = .ok (s', id) := by
    unfold Schema.pushMethod
    rw [hcheck, ht]
    exact ⟨_, _, rfl⟩
  obtain ⟨s', id, hpush⟩ := hpush
  obtain ⟨-, t', ht'⟩ := Schema.exists_type_of_pushMethod hpush
  refine ⟨s'.withHandlerType owner, id, ?_, t', ?_⟩
  · rw [Schema.addHandler, hpush]
    rfl
  · rw [Schema.type?, Schema.types_withHandlerType]
    exact ht'

variable {owner : TypeId} {handlers : List (String × Signature × HandlerBody)}

private theorem exists_addHandlers (hn : ∀ m ∈ handlers, isIdentifier m.1.toList = true)
    (hd : d.Indexed) {t : TypeDef} (ht : d.schema.type? owner = some t) :
    ∃ d' ids, addHandlers owner handlers d = .ok ids d' ∧
      Builtin.addEach owner handlers d.schema = .ok (d'.schema, ids) ∧ d'.Indexed := by
  induction handlers generalizing d t with
  | nil => exact ⟨d, [], rfl, rfl, hd⟩
  | cons m rest ih =>
    obtain ⟨name, signature, body⟩ := m
    obtain ⟨hname, hrest⟩ := List.forall_mem_cons.mp hn
    obtain ⟨s, id, hadd, t', ht'⟩ := exists_addHandler hname ht signature { body }
    obtain ⟨d', hd', rfl, hindexed⟩ :=
      (addHandler_mirrors owner name signature { body }).of_ok hd hadd
    obtain ⟨d'', ids, hd'', heach, hindexed'⟩ := ih hrest hindexed ht'
    refine ⟨d'', id :: ids, ?_, ?_, hindexed'⟩
    · simp only [addHandlers, bind_apply, hd', hd'', pure_apply]
    · simp only [Builtin.addEach, hadd, heach, Except.map]

/-- If the first of several handlers is accepted, the type is there and so are the others. -/
theorem addHandlers_mirrors (owner : TypeId)
    (hn : ∀ m ∈ handlers, isIdentifier m.1.toList = true) :
    Mirrors (addHandlers owner handlers) (Builtin.addEach owner handlers) := by
  intro d hd
  cases ht : d.schema.type? owner with
  | some t =>
    obtain ⟨d', ids, hd', heach, hindexed⟩ := exists_addHandlers hn hd ht
    rw [hd', heach]
    exact .done ids hindexed
  | none =>
    cases handlers with
    | nil => exact .done [] hd
    | cons m rest =>
      obtain ⟨name, signature, body⟩ := m
      have hname := Schema.check_of_isIdentifier (hn _ List.mem_cons_self)
      have hadd : d.schema.addHandler owner name signature { body } =
          .error (.unknownType owner.index) := by
        rw [Schema.addHandler, Schema.pushMethod, hname, ht]
        rfl
      have hfirst := (addHandler_mirrors owner name signature { body }).of_error hd hadd
      simp only [addHandlers, bind_apply, hfirst, Builtin.addEach, hadd]
      exact .refused _

theorem isIdentifier_of_mem_all : ∀ m ∈ Builtin.all, isIdentifier m.1.toList = true := by
  decide +kernel

theorem Mirrors.discard (h : Mirrors edit step) :
    Mirrors (discard edit) fun s => ((step s).map Prod.fst).map (·, ()) := by
  intro d hd
  change d.Agrees (((fun _ => ()) <$> edit) d) _
  simp only [map_apply]
  cases hs : step d.schema with
  | error e =>
    rw [h.of_error hd hs]
    exact .refused e
  | ok made =>
    obtain ⟨s, a⟩ := made
    obtain ⟨d', hd', rfl, hindexed⟩ := h.of_ok hd hs
    rw [hd']
    exact .done () hindexed

/-- Each step does to a draft what it does to a schema. -/
theorem perform_mirrors (step : Step) :
    Mirrors step.perform fun s => (step.apply s).map (·, ()) := by
  cases step with
  | rootType package name => exact (addRootType_mirrors package name).discard
  | nestedType parent name => exact (addNestedType_mirrors parent name).discard
  | field owner name type => exact (addField_mirrors owner name type).discard
  | require id r => exact require_mirrors id r
  | method owner name signature => exact (pushMethod_mirrors owner name signature none).discard
  | handler owner name signature spec =>
    exact (addHandler_mirrors owner name signature spec).discard
  | handlerType owner => exact markHandlerType_mirrors owner
  | builtins owner => exact (addHandlers_mirrors owner isIdentifier_of_mem_all).discard

end Mirrored

section Runs

private theorem buildable_addEach {owner : TypeId}
    {handlers : List (String × Signature × HandlerBody)} {s s' : Schema} {ids : List MethodId}
    (hb : s.Buildable) (h : Builtin.addEach owner handlers s = .ok (s', ids)) :
    s'.Buildable := by
  induction handlers generalizing s ids with
  | nil =>
    cases h
    exact hb
  | cons m rest ih =>
    obtain ⟨name, signature, body⟩ := m
    unfold Builtin.addEach at h
    split at h
    · cases h
    · rename_i hadd
      obtain ⟨⟨s₁, ids₁⟩, hrest, heq⟩ := map_eq_ok_iff.mp h
      cases heq
      exact ih (hb.handler hadd) hrest

private theorem buildable_apply {s s' : Schema} {step : Step} (hb : s.Buildable)
    (h : step.apply s = .ok s') : s'.Buildable := by
  cases step with
  | require id r => exact hb.require h
  | handlerType owner => exact hb.handlerType h
  | rootType package name =>
    obtain ⟨⟨s₁, id⟩, hs, rfl⟩ := map_eq_ok_iff.mp h
    exact hb.rootType hs
  | nestedType parent name =>
    obtain ⟨⟨s₁, id⟩, hs, rfl⟩ := map_eq_ok_iff.mp h
    exact hb.nestedType hs
  | field owner name type =>
    obtain ⟨⟨s₁, id⟩, hs, rfl⟩ := map_eq_ok_iff.mp h
    exact hb.field hs
  | method owner name signature =>
    obtain ⟨⟨s₁, id⟩, hs, rfl⟩ := map_eq_ok_iff.mp h
    exact hb.method hs
  | handler owner name signature spec =>
    obtain ⟨⟨s₁, id⟩, hs, rfl⟩ := map_eq_ok_iff.mp h
    exact hb.handler hs
  | builtins owner =>
    obtain ⟨⟨s₁, ids⟩, hs, rfl⟩ := map_eq_ok_iff.mp h
    exact buildable_addEach hb hs

private theorem left_perform (hd : d.Indexed) (hb : d.schema.Buildable) (step : Step) :
    (left (step.perform d)).Indexed ∧ (left (step.perform d)).schema.Buildable := by
  cases hs : step.apply d.schema with
  | error e =>
    rw [(perform_mirrors step).of_error hd (congrArg _ hs)]
    exact ⟨hd, hb⟩
  | ok s =>
    obtain ⟨d', hd', rfl, hindexed⟩ := (perform_mirrors step).of_ok hd (congrArg _ hs)
    rw [hd']
    exact ⟨hindexed, buildable_apply hb hs⟩

/-- Whatever steps are tried, the draft is indexed and its schema is one of the builder. -/
theorem run_spec (steps : List Step) :
    (run {} steps).Indexed ∧ (run {} steps).schema.Buildable := by
  induction steps using List.reverseRecOn with
  | nil => exact ⟨by simp [Indexed, run], .empty⟩
  | append_singleton steps step ih =>
    rw [run, List.foldl_append]
    exact left_perform ih.1 ih.2 step

/-- Whatever steps were tried, a step that is refused leaves the draft as it was. The draft has
each type and member at the place of its identity and under a name of its own, an index of just its
qualified names, types nested in earlier ones that list them, and as handler types all types with a
handler. So the way outwards from a type leads to ever earlier types and ends at one that is not
nested, and no two fields share a key. -/
theorem built_in_place (steps : List Step) (step : Step) :
    let d := run {} steps
    (∀ e d', step.perform d = .error e d' → d' = d) ∧
    d.Indexed ∧ d.schema.Sound ∧ d.schema.Nested ∧ d.schema.Marked ∧
    (∀ id t, d.schema.type? id = some t →
      d.schema.Climbs (some id) (d.schema.enclosingChain id) ∧
      (d.schema.enclosingChain id).Pairwise (fun inner outer => outer.index < inner.index) ∧
      ∃ root r, (d.schema.enclosingChain id).getLast? = some root ∧
        d.schema.type? root = some r ∧ r.enclosing = none) ∧
    ∀ f g x, d.schema.field? f = some x → d.schema.fieldKey g = d.schema.fieldKey f → g = f := by
  intro d
  obtain ⟨hd, hb⟩ := run_spec steps
  refine ⟨?_, hd, hb.sound, hb.nested, hb.marked, ?_, fun f g x => hb.sound.fieldKey_inj⟩
  · intro e d' he
    exact (perform_mirrors step).eq_of_refused hd he
  · intro id t ht
    have hclimbs := hb.nested.climbs_enclosingChain id
    exact ⟨hclimbs, hclimbs.pairwise hb.nested, hclimbs.getLast? hb.nested id t rfl ht⟩

end Runs

end FieldGate.Draft
