import FieldGate.Proofs.Installed
import FieldGate.Proofs.Nesting
import FieldGate.Proofs.SchemaNames

/-! When a schema has a handler table and what the table holds. Each handler has to be accepted on
its own, and no two of one type may share a name; then identities and keys lead to the same
handlers. -/
namespace FieldGate

namespace Signature

variable {s : Signature} {config : Config}

/-- A method of the signature can be called as a handler. -/
structure Callable (s : Signature) (config : Config) : Prop where
  returns : s.returns = .bool
  static : s.onInstance = false
  total : s.failures = []
  fixed : s.isVariadic = true → config.allowVariadicHandlers = true

theorem defects_eq_nil_iff : s.defects config = [] ↔ s.Callable config := by
  have hiff : s.Callable config ↔ s.returns = .bool ∧ s.onInstance = false ∧ s.failures = [] ∧
      (s.isVariadic = true → config.allowVariadicHandlers = true) := by
    constructor
    · intro h
      exact ⟨h.returns, h.static, h.total, h.fixed⟩
    · rintro ⟨hreturns, hstatic, htotal, hfixed⟩
      exact ⟨hreturns, hstatic, htotal, hfixed⟩
  rw [hiff]
  unfold defects
  simp only [List.append_eq_nil_iff, ite_eq_left_iff, ite_eq_right_iff, imp_false,
    List.isEmpty_iff, Decidable.not_not, Bool.not_eq_true, Bool.and_eq_true, Bool.not_eq_true',
    not_and, Bool.not_eq_false, and_assoc, List.cons_ne_nil]

/-- A signature is accepted if it can be called as that of a handler. -/
theorem validate_eq_ok_iff {key : String} :
    s.validate key config = .ok () ↔ s.Callable config := by
  rw [← defects_eq_nil_iff, ← List.isEmpty_iff, validate]
  split <;> simp_all

end Signature

theorem TypeDef.SoundAt.methods_nodup {t : TypeDef} {o : TypeId} (ht : t.SoundAt o) :
    (t.methods.map MethodDef.id).Nodup := by
  have hslots : (t.methods.map MethodDef.id).map MethodId.slot = List.range t.methods.length := by
    refine List.ext_getElem (by simp) fun j hj _ => ?_
    have hlt : j < t.methods.length := by simpa using hj
    rw [List.getElem_map, List.getElem_map, List.getElem_range,
      ht.method_id j _ (List.getElem?_eq_getElem hlt)]
  refine List.Nodup.of_map MethodId.slot ?_
  rw [hslots]
  exact List.nodup_range

namespace Schema

variable {s : Schema} {id id' : MethodId} {m m' : MethodDef} {spec spec' : HandlerSpec}

/-- The method with an identity is a handler, on a handler type. -/
def HandlerAt (s : Schema) (id : MethodId) (m : MethodDef) (spec : HandlerSpec) : Prop :=
  id.owner ∈ s.handlerTypes ∧ s.method? id = some m ∧ m.handler = some spec

theorem HandlerAt.id_eq (h : s.HandlerAt id m spec) (hs : s.Sound) : m.id = id :=
  hs.id_of_method? h.2.1

theorem HandlerAt.mem_handlerMethods (h : s.HandlerAt id m spec) : m ∈ s.handlerMethods := by
  obtain ⟨howner, hm, hspec⟩ := h
  obtain ⟨t, ht, hslot⟩ := Option.bind_eq_some_iff.mp hm
  refine List.mem_flatMap.mpr ⟨t, List.mem_filterMap.mpr ⟨id.owner, howner, ht⟩, ?_⟩
  refine List.mem_filter.mpr ⟨List.mem_of_getElem? hslot, ?_⟩
  rw [MethodDef.isHandler, hspec]
  rfl

theorem isHandler_of_mem_handlerMethods (hm : m ∈ s.handlerMethods) : m.isHandler = true := by
  obtain ⟨t, -, hmem⟩ := List.mem_flatMap.mp hm
  exact (List.mem_filter.mp hmem).2

/-- The methods that are looked at are handlers, each under its own identity. -/
theorem handlerAt_of_mem (hs : s.Sound) (hm : m ∈ s.handlerMethods)
    (hspec : m.handler = some spec) : s.HandlerAt m.id m spec := by
  obtain ⟨hmethod, howner⟩ := hs.method?_of_mem_handlerMethods hm
  exact ⟨howner, hmethod, hspec⟩

/-- Each handler is looked at once. -/
theorem nodup_handlerMethods (hs : s.Sound) (hm : s.Marked) :
    (s.handlerMethods.map MethodDef.id).Nodup := by
  have howner {t : TypeDef} {o : TypeId} (ht : s.type? o = some t) {id : MethodId}
      (hid : id ∈ (t.methods.filter MethodDef.isHandler).map MethodDef.id) : id.owner = o := by
    obtain ⟨m, hm, rfl⟩ := List.mem_map.mp hid
    obtain ⟨j, hj⟩ := List.mem_iff_getElem?.mp (List.mem_filter.mp hm).1
    rw [(hs.type?_sound ht).method_id j m hj]
  unfold handlerMethods
  rw [List.map_flatMap, List.nodup_flatMap]
  constructor
  · intro t ht
    obtain ⟨o, -, ht⟩ := List.mem_filterMap.mp ht
    exact (hs.type?_sound ht).methods_nodup.sublist (List.filter_sublist.map _)
  · rw [List.pairwise_filterMap]
    refine hm.nodup.imp ?_
    intro o o' hne t ht t' ht' id hid hid'
    exact hne ((howner ht hid).symm.trans (howner ht' hid'))

/-- Handlers share a key if they share a type and a name. -/
theorem methodKey_eq_iff (hs : s.Sound) (hn : s.Named) (hm : s.method? id = some m)
    (hm' : s.method? id' = some m') :
    s.methodKey id = s.methodKey id' ↔ id.owner = id'.owner ∧ m.name = m'.name := by
  obtain ⟨t, ht, hslot⟩ := Option.bind_eq_some_iff.mp hm
  obtain ⟨t', ht', hslot'⟩ := Option.bind_eq_some_iff.mp hm'
  have hname := (hn _ t ht).methods m (List.mem_of_getElem? hslot)
  have hname' := (hn _ t' ht').methods m' (List.mem_of_getElem? hslot')
  rw [methodKey, methodKey, hm, hm']
  constructor
  · intro h
    obtain ⟨htype, heq⟩ := memberKey_inj (some m.name) (some m'.name) (hash_notMem hname)
      (hash_notMem hname') h
    exact ⟨hs.eq_of_typeName ht ht' htype, heq⟩
  · rintro ⟨howner, heq⟩
    simp only [Option.map_some, howner, heq]

def HandlersNamedApart (s : Schema) : Prop :=
  ∀ id m spec id' m' spec', s.HandlerAt id m spec → s.HandlerAt id' m' spec' →
    id.owner = id'.owner → m.name = m'.name → id = id'

/-- Keys are apart just if the handlers of each type are named apart. -/
theorem nodup_keys_iff (hb : s.Buildable) :
    ((s.handlerMethods.map MethodDef.id).map s.methodKey).Nodup ↔ s.HandlersNamedApart := by
  have hs := hb.sound
  rw [List.nodup_map_iff_inj_on (nodup_handlerMethods hs hb.marked)]
  constructor
  · intro hinj id m spec id' m' spec' h h' howner hname
    refine hinj id ?_ id' ?_ ((methodKey_eq_iff hs hb.named h.2.1 h'.2.1).mpr ⟨howner, hname⟩)
    · exact List.mem_map.mpr ⟨m, h.mem_handlerMethods, h.id_eq hs⟩
    · exact List.mem_map.mpr ⟨m', h'.mem_handlerMethods, h'.id_eq hs⟩
  · intro hapart _ hmem _ hmem' hkey
    obtain ⟨m, hm, rfl⟩ := List.mem_map.mp hmem
    obtain ⟨m', hm', rfl⟩ := List.mem_map.mp hmem'
    obtain ⟨spec, hspec⟩ := Option.isSome_iff_exists.mp (isHandler_of_mem_handlerMethods hm)
    obtain ⟨spec', hspec'⟩ := Option.isSome_iff_exists.mp (isHandler_of_mem_handlerMethods hm')
    have h := handlerAt_of_mem hs hm hspec
    have h' := handlerAt_of_mem hs hm' hspec'
    obtain ⟨howner, hname⟩ := (methodKey_eq_iff hs hb.named h.2.1 h'.2.1).mp hkey
    exact hapart _ m spec _ m' spec' h h' howner hname

end Schema

/-- A site without arguments takes the default gate. -/
theorem Handler.bind_of_default [PatternEngine] {h : Handler} {g : Gate} (hg : h.default = some g)
    (typeOf : EntryId → ValueType) : (h.bind typeOf [] []).result = .ok g := by
  unfold bind
  rw [hg]
  rfl

namespace HandlerTable

private theorem find?_of_nodup {α β : Type} {as : List α} {g : α → β} {a : α} {p : α → Bool}
    (hn : (as.map g).Nodup) (ha : a ∈ as) (hp : ∀ b, p b = true ↔ g b = g a) :
    as.find? p = some a := by
  obtain ⟨b, hb⟩ := Option.isSome_iff_exists.mp (List.find?_isSome.mpr ⟨a, ha, (hp a).mpr rfl⟩)
  have hfound : p b = true := List.find?_some hb
  have hmem := List.mem_of_find?_eq_some hb
  rw [hb, List.inj_on_of_nodup_map hn hmem ha ((hp b).mp hfound)]

variable {c : Context}

private theorem exists_constArguments {owner : TypeId} {texts : List String} {es : List EntryId}
    (h : List.Forall₂ (c.setting.Names owner) texts es) (key : String) :
    ∃ bs, constArguments c owner key texts = .ok bs ∧ bs.map BoundEntry.entry = es := by
  induction h with
  | nil => exact ⟨[], rfl, rfl⟩
  | @cons text e texts es hname _ ih =>
    obtain ⟨r, hr, he⟩ := hname
    obtain ⟨bs, hbs, rfl⟩ := ih
    have hparse : c.schema.parseField c.config.trimReferences owner text = .ok r := hr
    have hentry : c.entries.entry r = .ok e := EntryTable.entry_eq_ok_iff.mpr he
    refine ⟨⟨e, text⟩ :: bs, ?_, rfl⟩
    unfold constArguments
    simp only [hparse, hentry, hbs, Except.map]

private theorem names_constArguments {owner : TypeId} {key : String} {texts : List String}
    {bs : List BoundEntry} (h : constArguments c owner key texts = .ok bs) :
    List.Forall₂ (c.setting.Names owner) texts (bs.map BoundEntry.entry) :=
  List.forall₂_map_right_iff.mpr (constArguments_spec h)

section Engine

variable [PatternEngine] {t t' : HandlerTable} {h : Handler} {m : MethodDef}
  {spec : HandlerSpec}

/-- A handler can be made from a method: its signature is that of a handler, the texts of its
constant parameters name entries, and where these are all the arguments they have the right
types. -/
structure Context.Accepts (c : Context) (m : MethodDef) (spec : HandlerSpec) : Prop where
  callable : m.signature.Callable c.config
  constants : ∃ es, List.Forall₂ (c.setting.Names m.id.owner) spec.constParams es ∧
    (m.signature.admits es.length = true →
      ∃ values, (m.signature.checkArguments (es.map c.typeOf) []).result = .ok values)

private theorem accepts_of_makeHandler (hmake : (makeHandler c m spec).result = .ok h) :
    c.Accepts m spec := by
  unfold makeHandler at hmake
  dsimp only at hmake
  split at hmake
  · cases hmake
  · cases hmake
  · rename_i bs hvalid hbs
    refine ⟨Signature.validate_eq_ok_iff.mp hvalid, _, names_constArguments hbs, ?_⟩
    intro hadmits
    rw [List.length_map] at hadmits
    rw [if_pos hadmits, Noted.result_andThen, bind_eq_ok_iff] at hmake
    obtain ⟨g, hg, -⟩ := hmake
    obtain ⟨values, hvalues, -⟩ := Handler.bindAll_eq_ok_iff.mp hg
    rw [List.append_nil] at hvalues
    exact ⟨values, hvalues⟩

private theorem exists_makeHandler (ha : c.Accepts m spec) :
    ∃ h, (makeHandler c m spec).result = .ok h := by
  obtain ⟨es, hes, hcheck⟩ := ha.constants
  obtain ⟨bs, hbs, rfl⟩ := exists_constArguments hes (c.schema.methodKey m.id)
  have hvalid : m.signature.validate (c.schema.methodKey m.id) c.config = .ok () :=
    Signature.validate_eq_ok_iff.mpr ha.callable
  unfold makeHandler
  simp only [hvalid, hbs]
  split
  · rename_i hadmits
    obtain ⟨values, hvalues⟩ := hcheck (by rw [List.length_map]; exact hadmits)
    let h : Handler :=
      { method := m.id, key := c.schema.methodKey m.id, signature := m.signature
        body := spec.body, constArguments := bs }
    have hbind : ∃ g, (h.bindAll c.typeOf [] []).result = .ok g := by
      refine ⟨_, Handler.bindAll_eq_ok_iff.mpr ⟨values, ?_, rfl⟩⟩
      rw [List.append_nil]
      exact hvalues
    obtain ⟨g, hg⟩ := hbind
    refine ⟨{ h with default := some g }, ?_⟩
    rw [Noted.result_andThen, hg]
    rfl
  · exact ⟨_, rfl⟩

/-- A handler gets a default gate just if its constant arguments are enough for a call. -/
theorem default_isSome_iff (hmake : (makeHandler c m spec).result = .ok h) :
    h.default.isSome ↔ h.signature.admits h.constArguments.length = true := by
  unfold makeHandler at hmake
  dsimp only at hmake
  split at hmake
  · cases hmake
  · cases hmake
  · split at hmake
    · rename_i hadmits
      rw [Noted.result_andThen, bind_eq_ok_iff] at hmake
      obtain ⟨g, -, ⟨⟩⟩ := hmake
      exact iff_of_true rfl hadmits
    · rename_i hadmits
      cases hmake
      exact iff_of_false Bool.false_ne_true hadmits

def Makes (c : Context) (m : MethodDef) (h : Handler) : Prop :=
  ∃ spec, m.handler = some spec ∧ (makeHandler c m spec).result = .ok h

theorem Makes.key_eq (hm : Makes c m h) : h.key = c.schema.methodKey m.id := by
  obtain ⟨spec, -, hmake⟩ := hm
  exact (makeHandler_spec hmake).key_eq

theorem Makes.method_eq (hm : Makes c m h) : h.method = m.id := by
  obtain ⟨spec, -, hmake⟩ := hm
  exact (makeHandler_spec hmake).method_eq

theorem Makes.key_eq_methodKey (hm : Makes c m h) : h.key = c.schema.methodKey h.method := by
  rw [hm.key_eq, hm.method_eq]

/-- Whether a method makes a handler depends on its signature, its constant parameters and their
types alone. -/
theorem exists_makes_iff (hspec : m.handler = some spec) :
    (∃ h, Makes c m h) ↔ c.Accepts m spec := by
  constructor
  · rintro ⟨h, spec', hspec', hmake⟩
    obtain rfl : spec = spec' := Option.some.inj (hspec.symm.trans hspec')
    exact accepts_of_makeHandler hmake
  · intro ha
    obtain ⟨h, hmake⟩ := exists_makeHandler ha
    exact ⟨h, spec, hspec, hmake⟩

/-- The two maps are one: each handler stands under its key, and no two of them under one. -/
structure Agrees (t : HandlerTable) (s : Schema) : Prop where
  names_eq : t.names = t.handlers.map fun h => (h.key, h.method)
  key_eq : ∀ h ∈ t.handlers, h.key = s.methodKey h.method
  nodup : (t.handlers.map Handler.key).Nodup

namespace Agrees

variable {s : Schema}

theorem empty : Agrees {} s := ⟨rfl, List.forall_mem_nil _, List.nodup_nil⟩

theorem eq_of_handlers (ht : t.Agrees s) (ht' : t'.Agrees s) (h : t.handlers = t'.handlers) :
    t = t' := by
  have hnames : t.names = t'.names := by rw [ht.names_eq, ht'.names_eq, h]
  cases t
  cases t'
  exact congr (congrArg HandlerTable.mk h) hnames

theorem keys_perm (ht : t.Agrees s) : t.keys.Perm (t.handlers.map Handler.key) := by
  have hkeys : t.names.map (·.1) = t.handlers.map Handler.key := by
    rw [ht.names_eq, List.map_map]
    rfl
  rw [← hkeys]
  exact List.mergeSort_perm _ _

/-- A name is taken just if a handler has it for its key. -/
theorem lookup_isSome_iff (ht : t.Agrees s) {key : String} :
    (t.names.lookup key).isSome ↔ key ∈ t.handlers.map Handler.key := by
  have hnone : t.names.lookup key = none ↔ key ∉ t.handlers.map Handler.key := by
    rw [List.lookup_eq_none_iff, ht.names_eq, List.forall_mem_map, List.mem_map]
    simp only [bne_iff_ne, not_exists, not_and, ne_comm (a := key)]
  rw [← not_iff_not, ← hnone, Option.not_isSome_iff_eq_none]

/-- A handler under a new key has a new identity, so it takes the place of none. -/
theorem insert_eq (ht : t.Agrees s) (hkey : h.key = s.methodKey h.method)
    (hnew : h.key ∉ t.handlers.map Handler.key) :
    t.insert h = ⟨t.handlers ++ [h], t.names ++ [(h.key, h.method)]⟩ := by
  have hhandlers : t.handlers.filter (fun h' => h'.method ≠ h.method) = t.handlers := by
    refine List.filter_eq_self.mpr fun h' hh' => decide_eq_true fun hmethod => hnew ?_
    rw [hkey, ← hmethod, ← ht.key_eq h' hh']
    exact List.mem_map_of_mem hh'
  have hnames : t.names.filter (fun n => n.1 ≠ h.key) = t.names := by
    rw [ht.names_eq]
    refine List.filter_eq_self.mpr fun n hn => decide_eq_true fun heq => hnew ?_
    obtain ⟨h', hh', rfl⟩ := List.mem_map.mp hn
    rw [← heq]
    exact List.mem_map_of_mem hh'
  rw [insert, hhandlers, hnames]

/-- A handler with a new key keeps the two maps in agreement. -/
theorem insert (ht : t.Agrees s) (hkey : h.key = s.methodKey h.method)
    (hnew : h.key ∉ t.handlers.map Handler.key) : (t.insert h).Agrees s := by
  rw [ht.insert_eq hkey hnew]
  refine ⟨?_, ?_, ?_⟩
  · rw [ht.names_eq, List.map_append, List.map_singleton]
  · intro h' hh'
    rcases List.mem_append.mp hh' with hh' | hh'
    · exact ht.key_eq h' hh'
    · rwa [List.mem_singleton.mp hh']
  · rw [List.map_append, List.map_singleton, ← List.concat_eq_append]
    exact ht.nodup.concat hnew

/-- The detour over the names ends at the handler with the key. -/
theorem byKey?_eq (ht : t.Agrees s) (hh : h ∈ t.handlers) : t.byKey? h.key = t.get? h.method := by
  obtain ⟨id, hid⟩ := Option.isSome_iff_exists.mp
    (ht.lookup_isSome_iff.mpr (List.mem_map_of_mem hh))
  obtain ⟨before, after, hsplit, -⟩ := List.lookup_eq_some_iff.mp hid
  have hmem : (h.key, id) ∈ t.handlers.map fun h => (h.key, h.method) := by
    rw [← ht.names_eq, hsplit]
    exact List.mem_append_right _ List.mem_cons_self
  obtain ⟨h', hh', heq⟩ := List.mem_map.mp hmem
  obtain ⟨hkey, rfl⟩ := Prod.mk.inj heq
  rw [byKey?, hid, Option.bind_some, List.inj_on_of_nodup_map ht.nodup hh' hh hkey]

end Agrees

/-- Handlers are added in order as long as each is made and brings a new key. -/
theorem addEach_eq_ok_iff {ms : List MethodDef} (hms : ∀ m ∈ ms, m.isHandler = true)
    (ht : t.Agrees c.schema) :
    (addEach c t ms).result = .ok t' ↔
      ∃ hs, List.Forall₂ (Makes c) ms hs ∧ t'.handlers = t.handlers ++ hs ∧
        t'.Agrees c.schema := by
  induction ms generalizing t with
  | nil =>
    simp only [addEach, Noted.result_ok, Except.ok.injEq, List.forall₂_nil_left_iff,
      exists_eq_left, List.append_nil]
    constructor
    · rintro rfl
      exact ⟨rfl, ht⟩
    · rintro ⟨hhandlers, ht'⟩
      exact ht.eq_of_handlers ht' hhandlers.symm
  | cons m ms ih =>
    obtain ⟨hm, hrest⟩ := List.forall_mem_cons.mp hms
    obtain ⟨spec, hspec⟩ := Option.isSome_iff_exists.mp hm
    simp only [addEach, hspec, Noted.result_andThen, bind_eq_ok_iff, ht.lookup_isSome_iff]
    constructor
    · rintro ⟨h, hmake, hadd⟩
      have hfirst : Makes c m h := ⟨spec, hspec, hmake⟩
      split at hadd
      · cases hadd
      · rename_i hnew
        obtain ⟨hs, hmakes, hhandlers, ht'⟩ :=
          (ih hrest (ht.insert hfirst.key_eq_methodKey hnew)).mp hadd
        refine ⟨h :: hs, .cons hfirst hmakes, ?_, ht'⟩
        rw [hhandlers, ht.insert_eq hfirst.key_eq_methodKey hnew, List.append_assoc,
          List.singleton_append]
    · rintro ⟨_, hmakes, hhandlers, ht'⟩
      cases hmakes with
      | @cons _ h _ hs hfirst hmakes =>
        obtain ⟨spec', hspec', hmake⟩ := id hfirst
        obtain rfl : spec = spec' := Option.some.inj (hspec.symm.trans hspec')
        have hnew : h.key ∉ t.handlers.map Handler.key := by
          have hn := ht'.nodup
          rw [hhandlers, List.map_append, List.map_cons] at hn
          exact fun hmem => (List.disjoint_of_nodup_append hn) hmem List.mem_cons_self
        refine ⟨h, hmake, ?_⟩
        rw [if_neg hnew]
        refine (ih hrest (ht.insert hfirst.key_eq_methodKey hnew)).mpr ⟨hs, hmakes, ?_, ht'⟩
        rw [hhandlers, ht.insert_eq hfirst.key_eq_methodKey hnew, List.append_assoc,
          List.singleton_append]

/-- A table holds one handler for each handler of the schema, in order, and its two maps agree. -/
theorem build_eq_ok_iff :
    (build c).result = .ok t ↔
      List.Forall₂ (Makes c) c.schema.handlerMethods t.handlers ∧ t.Agrees c.schema := by
  rw [build, addEach_eq_ok_iff (fun _ => Schema.isHandler_of_mem_handlerMethods) .empty]
  simp only [List.nil_append]
  constructor
  · rintro ⟨_, hmakes, rfl, ht⟩
    exact ⟨hmakes, ht⟩
  · rintro ⟨hmakes, ht⟩
    exact ⟨t.handlers, hmakes, rfl, ht⟩

/-- A handler of a table has a default gate just if its constant arguments are enough for a call,
and it is the gate that they are bound to. -/
theorem default_of_mem (ht : (build c).result = .ok t) (hh : h ∈ t.handlers) :
    (h.default.isSome ↔ h.signature.admits h.constArguments.length = true) ∧
      ∀ g, h.default = some g → (h.bindAll c.typeOf [] []).result = .ok g := by
  obtain ⟨m, -, spec, -, hmake⟩ := exists_left_of_mem (build_eq_ok_iff.mp ht).1 hh
  exact ⟨default_isSome_iff hmake, (makeHandler_spec hmake).default_bound⟩

/-- A handler of a table is bound only to arguments that its signature accepts, with the table or at
the site. -/
theorem accepted_of_bind {site : List BoundEntry} {literals : List String} {g : Gate}
    (ht : (build c).result = .ok t) (hh : h ∈ t.handlers)
    (hbind : (h.bind c.typeOf site literals).result = .ok g) :
    ∃ values, (h.signature.checkArguments
        ((h.constArguments ++ site).map fun b => c.typeOf b.entry) literals).result = .ok values ∧
      g = .leaf (.call (h.call ((h.constArguments ++ site).map .entry ++
        values.map .literal))) := by
  have hall := Handler.bindAll_of_bind (default_of_mem ht hh).2 hbind
  obtain ⟨values, hvalues, hg⟩ := Handler.bindAll_eq_ok_iff.mp hall
  rw [List.map_map] at hvalues
  exact ⟨values, hvalues, hg⟩

private theorem keys_of_makes {ms : List MethodDef} {hs : List Handler}
    (hmakes : List.Forall₂ (Makes c) ms hs) :
    hs.map Handler.key = (ms.map MethodDef.id).map c.schema.methodKey ∧
      hs.map Handler.method = ms.map MethodDef.id := by
  induction hmakes with
  | nil => exact ⟨rfl, rfl⟩
  | cons hm _ ih =>
    simp only [List.map_cons]
    exact ⟨by rw [hm.key_eq, ih.1], by rw [hm.method_eq, ih.2]⟩

/-- A schema of the builder has a table just if each handler is accepted and no two of one type
share a name, in whatever they differ otherwise. The table then has a handler for each of them and
for no other method, found by its identity and by its key. Each key belongs to one handler, so there
are as many keys as handlers. -/
theorem build_ok_iff (hb : c.schema.Buildable) :
    ((∃ t, (build c).result = .ok t) ↔
      (∀ id m spec, c.schema.HandlerAt id m spec → c.Accepts m spec) ∧
        c.schema.HandlersNamedApart) ∧
    ∀ t, (build c).result = .ok t →
      (∀ id, (t.get? id).isSome ↔ ∃ m spec, c.schema.HandlerAt id m spec) ∧
      (∀ id m spec, c.schema.HandlerAt id m spec → ∃ h, t.get? id = some h ∧
        t.byKey? (c.schema.methodKey id) = some h ∧ Made c m spec h) ∧
      (∀ key ∈ t.keys, ∃! h, h ∈ t.handlers ∧ h.key = key) ∧
      t.keys.Nodup ∧ (t.handlers.map Handler.method).Nodup ∧ t.keys.length = t.size := by
  have hs := hb.sound
  refine ⟨?_, ?_⟩
  · rw [← Schema.nodup_keys_iff hb]
    constructor
    · rintro ⟨t, ht⟩
      obtain ⟨hmakes, hagrees⟩ := build_eq_ok_iff.mp ht
      refine ⟨?_, (keys_of_makes hmakes).1 ▸ hagrees.nodup⟩
      intro id m spec hat
      obtain ⟨h, -, hm⟩ := exists_right_of_mem hmakes hat.mem_handlerMethods
      exact (exists_makes_iff hat.2.2).mp ⟨h, hm⟩
    · rintro ⟨haccepts, hn⟩
      have hall : ∀ m ∈ c.schema.handlerMethods, ∃ h, Makes c m h := by
        intro m hm
        obtain ⟨spec, hspec⟩ :=
          Option.isSome_iff_exists.mp (Schema.isHandler_of_mem_handlerMethods hm)
        exact (exists_makes_iff hspec).mpr
          (haccepts m.id m spec (Schema.handlerAt_of_mem hs hm hspec))
      obtain ⟨handlers, hmakes⟩ := exists_forall₂_iff.mpr hall
      let t : HandlerTable := ⟨handlers, handlers.map fun h => (h.key, h.method)⟩
      refine ⟨t, build_eq_ok_iff.mpr ⟨hmakes, rfl, fun h hh => ?_, ?_⟩⟩
      · obtain ⟨m, -, hm⟩ := exists_left_of_mem hmakes hh
        exact hm.key_eq_methodKey
      · rw [(keys_of_makes hmakes).1]
        exact hn
  · intro t ht
    obtain ⟨hmakes, hagrees⟩ := build_eq_ok_iff.mp ht
    have hperm := hagrees.keys_perm
    have hmethods : (t.handlers.map Handler.method).Nodup := by
      rw [(keys_of_makes hmakes).2]
      exact Schema.nodup_handlerMethods hs hb.marked
    have hfind : ∀ id m spec, c.schema.HandlerAt id m spec → ∃ h, t.get? id = some h ∧
        t.byKey? (c.schema.methodKey id) = some h ∧ Made c m spec h := by
      intro id m spec hat
      obtain ⟨h, hmem, spec', hspec', hmake⟩ :=
        exists_right_of_mem hmakes hat.mem_handlerMethods
      obtain rfl : spec = spec' := Option.some.inj (hat.2.2.symm.trans hspec')
      have hmade := makeHandler_spec hmake
      have hid : h.method = id := hmade.method_eq.trans (hat.id_eq hs)
      have hkey : h.key = c.schema.methodKey id := by rw [hmade.key_eq, hat.id_eq hs]
      have hget : t.get? id = some h := find?_of_nodup hmethods hmem (by simp [hid])
      refine ⟨h, hget, ?_, hmade⟩
      rw [← hkey, hagrees.byKey?_eq hmem, hid, hget]
    refine ⟨?_, hfind, ?_, hperm.nodup_iff.mpr hagrees.nodup, hmethods, ?_⟩
    · intro id
      constructor
      · intro hsome
        obtain ⟨h, hh⟩ := Option.isSome_iff_exists.mp hsome
        obtain ⟨howner, m, spec, hm, hspec, -⟩ := made_of_get? hs ht hh
        exact ⟨m, spec, howner, hm, hspec⟩
      · rintro ⟨m, spec, hat⟩
        obtain ⟨h, hh, -⟩ := hfind id m spec hat
        rw [hh]
        rfl
    · intro key hkey
      obtain ⟨h, hmem, rfl⟩ := List.mem_map.mp (hperm.mem_iff.mp hkey)
      refine ⟨h, ⟨hmem, rfl⟩, ?_⟩
      rintro h' ⟨hmem', heq⟩
      exact List.inj_on_of_nodup_map hagrees.nodup hmem' hmem heq
    · rw [hperm.length_eq, List.length_map, size]

end Engine

open scoped Pattern.Engine

/-- The handler of a beacon is accepted once the power of the beacon has an entry, and is then found
under its key. -/
theorem table_of_beacon :
    let c : Context := { schema := .beacon, config := {}, entries := ⟨[(⟨⟨0⟩, 0⟩, [⟨0⟩])]⟩
                         typeOf := fun _ => .bool }
    Schema.beacon.Buildable ∧ ∃ t h, (build c).result = .ok t ∧
      t.get? ⟨⟨0⟩, 0⟩ = some h ∧ t.byKey? "Beacon#isOff" = some h ∧
      h.constArguments.map BoundEntry.entry = [⟨0⟩] := by
  intro c
  have ht : ∃ t, (build c).result = .ok t := ⟨_, rfl⟩
  obtain ⟨t, ht⟩ := ht
  obtain ⟨-, hfind, -⟩ := (build_ok_iff Schema.buildable_beacon).2 t ht
  obtain ⟨h, hget, hkey, hmade⟩ := hfind ⟨⟨0⟩, 0⟩ _ _ ⟨List.mem_singleton_self _, rfl, rfl⟩
  refine ⟨Schema.buildable_beacon, t, h, ht, hget, hkey, ?_⟩
  have hnames : List.Forall₂ (c.setting.Names ⟨0⟩) ["power"] [⟨0⟩] := .cons ⟨_, rfl, rfl⟩ .nil
  exact Setting.names_unique (List.forall₂_map_right_iff.mpr hmade.constants) hnames

end HandlerTable

end FieldGate
