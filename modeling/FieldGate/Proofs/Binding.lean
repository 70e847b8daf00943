import FieldGate.Proofs.Noted
import FieldGate.Proofs.SchemaIdentity
import FieldGate.Handler

/-! What references name, and what is known of the handlers of a table: each was made from a handler
of the schema, with its constant arguments looked up and its default gate bound like any other. -/
namespace FieldGate

/-- A schema with the entries that are registered for its fields. -/
structure Setting where
  schema : Schema
  config : Config
  registered : FieldId → List EntryId
  typeOf : EntryId → ValueType

namespace Setting

/-- A text names an entry, read from a type. -/
def Names (st : Setting) (base : TypeId) (text : String) (e : EntryId) : Prop :=
  ∃ r, st.schema.parseField st.config.trimReferences base text = .ok r ∧
    EntryTable.place? (st.registered r.target.field) r.target.index.toInt = some e

theorem Names.unique {st : Setting} {base : TypeId} {text : String} {e e' : EntryId}
    (h : st.Names base text e) (h' : st.Names base text e') : e = e' := by
  obtain ⟨r, hr, he⟩ := h
  obtain ⟨r', hr', he'⟩ := h'
  obtain rfl : r = r' := Except.ok.inj (hr.symm.trans hr')
  exact Option.some.inj (he.symm.trans he')

/-- Texts name their entries in one way only. -/
theorem names_unique {st : Setting} {base : TypeId} {texts : List String} {es es' : List EntryId}
    (h : List.Forall₂ (st.Names base) texts es) (h' : List.Forall₂ (st.Names base) texts es') :
    es = es' :=
  Relator.RightUnique.forall₂ (fun _ _ _ h h' => h.unique h') h h'

end Setting

/-- The entry that a reference means is the one at its place among those of its field. -/
theorem EntryTable.entry_eq_ok_iff {t : EntryTable} {r : FieldReference} {e : EntryId} :
    t.entry r = .ok e ↔
      EntryTable.place? (t.entries r.target.field) r.target.index.toInt = some e := by
  unfold EntryTable.entry EntryTable.locate EntryTable.entries
  cases t.entries? r.target.field with
  | none => simp [EntryTable.place?]
  | some es =>
    cases es with
    | nil => simp [EntryTable.place?]
    | cons e' es =>
      dsimp only [Option.getD_some]
      cases EntryTable.place? (e' :: es) r.target.index.toInt <;> simp

namespace HandlerTable

variable {c : Context}

def Context.setting (c : Context) : Setting :=
  { schema := c.schema, config := c.config, registered := c.entries.entries, typeOf := c.typeOf }

/-- Constant arguments are named by the texts of the constant parameters, in order. -/
theorem constArguments_spec {owner : TypeId} {key : String} {texts : List String}
    {bs : List BoundEntry} (h : constArguments c owner key texts = .ok bs) :
    List.Forall₂ (fun text b => c.setting.Names owner text b.entry) texts bs := by
  induction texts generalizing bs with
  | nil =>
    cases h
    exact .nil
  | cons text texts ih =>
    unfold constArguments at h
    split at h
    · cases h
    · rename_i r hr
      split at h
      · cases h
      · rename_i e he
        obtain ⟨bs, hbs, rfl⟩ := map_eq_ok_iff.mp h
        exact .cons ⟨r, hr, EntryTable.entry_eq_ok_iff.mp he⟩ (ih hbs)

variable [PatternEngine] {t t' : HandlerTable} {h : Handler}

/-- A handler as it is made from a method. -/
structure Made (c : Context) (m : MethodDef) (spec : HandlerSpec) (h : Handler) : Prop where
  method_eq : h.method = m.id
  key_eq : h.key = c.schema.methodKey m.id
  signature_eq : h.signature = m.signature
  body_eq : h.body = spec.body
  constants : List.Forall₂ (fun text b => c.setting.Names m.id.owner text b.entry)
    spec.constParams h.constArguments
  default_bound : ∀ g, h.default = some g → (h.bindAll c.typeOf [] []).result = .ok g

theorem makeHandler_spec {m : MethodDef} {spec : HandlerSpec}
    (h' : (makeHandler c m spec).result = .ok h) : Made c m spec h := by
  unfold makeHandler at h'
  dsimp only at h'
  split at h'
  · cases h'
  · cases h'
  · rename_i bs _ hbs
    have hconst := constArguments_spec hbs
    split at h'
    · rw [Noted.result_andThen, bind_eq_ok_iff] at h'
      obtain ⟨g, hg, h'⟩ := h'
      cases h'
      refine ⟨rfl, rfl, rfl, rfl, hconst, ?_⟩
      rintro g' ⟨⟩
      exact hg
    · cases h'
      exact ⟨rfl, rfl, rfl, rfl, hconst, by rintro g ⟨⟩⟩

/-- Inserting brings in the inserted handler and no other. -/
theorem mem_insert {h' : Handler} (hh : h' ∈ (t.insert h).handlers) : h' ∈ t.handlers ∨ h' = h :=
  (List.mem_append.mp hh).imp List.mem_of_mem_filter List.mem_singleton.mp

private theorem addEach_spec {ms : List MethodDef} (h' : (addEach c t ms).result = .ok t')
    (hh : h ∈ t'.handlers) :
    h ∈ t.handlers ∨ ∃ m ∈ ms, ∃ spec, m.handler = some spec ∧ Made c m spec h := by
  induction ms generalizing t with
  | nil =>
    cases h'
    exact .inl hh
  | cons m ms ih =>
    have hrest {t : HandlerTable} (h' : (addEach c t ms).result = .ok t') :
        h ∈ t.handlers ∨ ∃ m' ∈ m :: ms, ∃ spec, m'.handler = some spec ∧ Made c m' spec h := by
      refine (ih h').imp_right ?_
      rintro ⟨m', hm', hmade⟩
      exact ⟨m', List.mem_cons_of_mem _ hm', hmade⟩
    unfold addEach at h'
    split at h'
    · exact hrest h'
    · rename_i spec hspec
      rw [Noted.result_andThen, bind_eq_ok_iff] at h'
      obtain ⟨h₁, hmake, h'⟩ := h'
      split at h'
      · cases h'
      · rcases hrest h' with hmem | hmade
        · rcases mem_insert hmem with hmem | rfl
          · exact .inl hmem
          · exact .inr ⟨m, List.mem_cons_self, spec, hspec, makeHandler_spec hmake⟩
        · exact .inr hmade

/-- Each handler of a table was made from one of the schema. -/
theorem made_of_mem (h' : (build c).result = .ok t) (hh : h ∈ t.handlers) :
    ∃ m ∈ c.schema.handlerMethods, ∃ spec, m.handler = some spec ∧ Made c m spec h :=
  (addEach_spec h' hh).resolve_left List.not_mem_nil

/-- What a table finds was made from the handler of the schema that has the identity. -/
theorem made_of_get? {id : MethodId} (hs : c.schema.Sound) (h' : (build c).result = .ok t)
    (hh : t.get? id = some h) :
    id.owner ∈ c.schema.handlerTypes ∧ ∃ m spec, c.schema.method? id = some m ∧
      m.handler = some spec ∧ Made c m spec h := by
  have hid : h.method = id := by
    have := List.find?_some hh
    exact of_decide_eq_true this
  obtain ⟨m, hm, spec, hspec, hmade⟩ := made_of_mem h' (List.mem_of_find?_eq_some hh)
  obtain ⟨hmethod, howner⟩ := hs.method?_of_mem_handlerMethods hm
  rw [hmade.method_eq] at hid
  subst hid
  exact ⟨howner, m, spec, hmethod, hspec, hmade⟩

end HandlerTable

namespace Handler

variable [PatternEngine] {h : Handler} {typeOf : EntryId → ValueType} {site : List BoundEntry}
  {literals : List String} {g : Gate}

/-- A call is bound if its arguments are accepted: to the constant entries, those of the site, and
the literals that were read. -/
theorem bindAll_eq_ok_iff :
    (h.bindAll typeOf site literals).result = .ok g ↔
      ∃ values, (h.signature.checkArguments
          (((h.constArguments ++ site).map BoundEntry.entry).map typeOf) literals).result =
            .ok values ∧
        g = .leaf (.call (h.call ((h.constArguments ++ site).map .entry ++
          values.map .literal))) := by
  simp only [bindAll, Noted.result_andThen, Noted.result_mapError, bind_eq_ok_iff,
    mapError_eq_ok_iff, Noted.result_ok, Except.ok.injEq, List.map_map]
  exact exists_congr fun _ => and_congr_right fun _ => eq_comm

/-- The default gate is the one that a site without arguments would be bound to. -/
theorem bindAll_of_bind
    (hd : ∀ g, h.default = some g → (h.bindAll typeOf [] []).result = .ok g)
    (hb : (h.bind typeOf site literals).result = .ok g) :
    (h.bindAll typeOf site literals).result = .ok g := by
  unfold bind at hb
  split at hb
  · rename_i g' hdefault
    cases hb
    exact hd _ hdefault
  · exact hb

end Handler

end FieldGate
