import FieldGate.Proofs.Scanning
import FieldGate.Proofs.SchemaNames

/-! Canonical texts, read back. Such a text has the qualified name of a type, so it can only go
astray where a longer name ends in that one, and where the parameter types of a method are no
list. -/
namespace FieldGate

def Target.owner : Target → TypeId
  | field t => t.field.owner
  | method id => id.owner

/-- Whether parameter types can be listed between parentheses: none is blank, and none has a
character that ends or separates them. -/
def Printable (descriptors : List String) : Prop :=
  ∀ d ∈ descriptors, (∃ c ∈ d.toList, Unicode.isBlank c = false) ∧
    ∀ c ∈ d.toList, c ∉ ['(', ')', '[', ']', '#', ',']

instance : DecidablePred Printable := fun descriptors =>
  decidable_of_iff
    ((descriptors.all fun d => (d.toList.any fun c => !Unicode.isBlank c) &&
      d.toList.all fun c => decide (c ∉ ['(', ')', '[', ']', '#', ','])) = true) (by
    simp only [Printable, List.all_eq_true, Bool.and_eq_true, List.any_eq_true,
      Bool.not_eq_true', decide_eq_true_eq])

section Descriptors

variable {descriptors : List String}

private theorem splitOn_listed {part : List Char} {parts : List (List Char)}
    (h : ∀ p ∈ part :: parts, ',' ∉ p) :
    Text.splitOn ',' ([',', ' '].intercalate (part :: parts)) = part :: parts.map (' ' :: ·) := by
  -- a blank stands before each part but the first
  have hlisted : [',', ' '].intercalate (part :: parts) =
      [','].intercalate (part :: parts.map (' ' :: ·)) := by
    rw [Text.intercalate_cons, Text.intercalate_cons, List.flatMap_map]
    rfl
  obtain ⟨hpart, hparts⟩ := List.forall_mem_cons.mp h
  rw [Text.splitOn_eq_list_splitOn, hlisted, List.splitOn_intercalate]
  · refine List.forall_mem_cons.mpr ⟨hpart, ?_⟩
    intro p hp
    obtain ⟨q, hq, rfl⟩ := List.mem_map.mp hp
    simpa using hparts q hq
  · simp

private theorem toList_listed :
    (Text.join ", " descriptors).toList = [',', ' '].intercalate (descriptors.map String.toList) :=
  String.toList_intercalate

def compact (descriptors : List String) : List String :=
  descriptors.map fun d => String.ofList (Text.withoutBlanks d.toList)

private theorem printable_of_lists
    (hplain : ∀ c ∈ (Text.join ", " descriptors).toList, Cursor.isPlain c = true)
    (h : Cursor.Lists (Text.join ", " descriptors).toList (compact descriptors)) :
    Printable descriptors := by
  intro d hd
  rcases h with ⟨-, hnil⟩ | ⟨-, hparts, heq⟩
  · rw [List.map_eq_nil_iff.mp hnil] at hd
    cases hd
  · -- but for blanks, the type is a part between commas
    have hmem : String.ofList (Text.withoutBlanks d.toList) ∈ compact descriptors :=
      List.mem_map_of_mem hd
    rw [heq] at hmem
    obtain ⟨part, hpart, hsame⟩ := List.mem_map.mp hmem
    have hsame : Text.withoutBlanks part = Text.withoutBlanks d.toList :=
      String.ofList_injective hsame
    constructor
    · exact Text.withoutBlanks_ne_nil_iff.mp (hsame ▸ hparts part hpart)
    · intro c hc hsign
      rcases List.mem_append.mp (show c ∈ ['(', ')', '[', ']', '#'] ++ [','] from hsign)
        with hsign | hcomma
      · refine Cursor.isPlain_iff.mp (hplain c ?_) hsign
        rw [toList_listed]
        exact Text.mem_intercalate_of_mem _ (List.mem_map_of_mem hd) hc
      · rw [List.mem_singleton.mp hcomma] at hc
        have hkept : ',' ∈ Text.withoutBlanks d.toList :=
          List.mem_filter.mpr ⟨hc, by simp [isBlank_sign ',' (by simp)]⟩
        rw [← hsame] at hkept
        exact Text.notMem_of_mem_splitOn hpart (List.mem_of_mem_filter hkept)

private theorem isPlain_of_printable (h : Printable descriptors) :
    ∀ c ∈ (Text.join ", " descriptors).toList, Cursor.isPlain c = true := by
  intro c hc
  rw [toList_listed] at hc
  rcases Text.mem_or_mem_of_mem_intercalate hc with hsep | ⟨part, hpart, hc⟩
  · have hseps : [',', ' '].all Cursor.isPlain = true := by decide
    exact List.all_eq_true.mp hseps c hsep
  · obtain ⟨d, hd, rfl⟩ := List.mem_map.mp hpart
    rw [Cursor.isPlain_iff]
    intro hsign
    exact (h d hd).2 c hc (List.mem_append_left [','] hsign)

private theorem lists_of_printable (h : Printable descriptors) :
    Cursor.Lists (Text.join ", " descriptors).toList (compact descriptors) := by
  rw [toList_listed]
  cases descriptors with
  | nil => exact .inl ⟨by simp, rfl⟩
  | cons d ds =>
    obtain ⟨hd, hds⟩ := List.forall_mem_cons.mp h
    have hcommas : ∀ p ∈ d.toList :: ds.map String.toList, ',' ∉ p := by
      refine List.forall_mem_cons.mpr ⟨fun hmem => hd.2 ',' hmem (by simp), ?_⟩
      intro p hp hmem
      obtain ⟨e, he, rfl⟩ := List.mem_map.mp hp
      exact (hds e he).2 ',' hmem (by simp)
    obtain ⟨c, hc, hblank⟩ := hd.1
    refine .inr ⟨⟨c, Text.mem_intercalate_of_mem _ List.mem_cons_self hc, hblank⟩, ?_⟩
    rw [List.map_cons, splitOn_listed hcommas]
    constructor
    · refine List.forall_mem_cons.mpr ⟨Text.withoutBlanks_ne_nil_iff.mpr hd.1, ?_⟩
      intro part hpart
      obtain ⟨p, hp, rfl⟩ := List.mem_map.mp hpart
      obtain ⟨e, he, rfl⟩ := List.mem_map.mp hp
      rw [Text.withoutBlanks_cons_of_isBlank isBlank_space]
      exact Text.withoutBlanks_ne_nil_iff.mpr (hds e he).1
    · simp [compact, Text.withoutBlanks_cons_of_isBlank isBlank_space]

/-- A list of parameter types is read as those types without their blanks, exactly if they can be
listed. -/
theorem lists_join_iff :
    ((∀ c ∈ (Text.join ", " descriptors).toList, Cursor.isPlain c = true) ∧
      Cursor.Lists (Text.join ", " descriptors).toList (compact descriptors)) ↔
      Printable descriptors :=
  ⟨fun ⟨hplain, h⟩ => printable_of_lists hplain h,
    fun h => ⟨isPlain_of_printable h, lists_of_printable h⟩⟩

end Descriptors

namespace TypeDef

def Has (t : TypeDef) : Target → Prop
  | .field ft => ∃ f ∈ t.fields, f.id = ft.field
  | .method id => ∃ m ∈ t.methods, m.id = id

def path (t : TypeDef) : List String :=
  (Text.splitOn '.' t.qualifiedName.toList).map String.ofList

theorem join_path (t : TypeDef) : Text.join "." t.path = t.qualifiedName := by
  have hlist : (Text.join "." t.path).toList = t.qualifiedName.toList := by
    have hmap : t.path.map String.toList = Text.splitOn '.' t.qualifiedName.toList := by
      simp [path]
    rw [Text.join, String.toList_intercalate, hmap]
    exact Text.intercalate_splitOn '.' t.qualifiedName.toList
  exact String.toList_inj.mp hlist

end TypeDef

namespace Schema

variable {s : Schema} {t : TypeDef} {raw : RawReference} {base id : TypeId} {target : Target}
  {mid : MethodId} {m : MethodDef} {trim : Bool} {text : String} {r : Reference}

/-- A reference is read in three steps: its parts, the type that its path names, and the member
there. -/
theorem parse_eq_ok_iff :
    s.parse trim base text = .ok r ↔ ∃ raw id t, RawReference.scan trim text.toList = .ok raw ∧
      s.resolveType base raw = some id ∧ s.type? id = some t ∧
      resolveMember t raw = .ok r.target ∧ r.text = text := by
  obtain ⟨target, text'⟩ := r
  unfold parse
  constructor
  · intro h
    split at h
    · cases h
    · rename_i raw hraw
      split at h
      · cases h
      · rename_i hresolve
        cases h
        unfold resolve at hresolve
        split at hresolve
        · rename_i t ht
          obtain ⟨id, hid, ht⟩ := Option.bind_eq_some_iff.mp ht
          exact ⟨raw, id, t, hraw, hid, ht, hresolve, rfl⟩
        · cases hresolve
  · rintro ⟨raw, id, t, hraw, hid, ht, hmember, rfl⟩
    simp [hraw, resolve, hid, ht, hmember]

/-- A field is meant if there are no parameter types and it has the name. -/
theorem resolveMember_eq_field_iff {ft : FieldTarget} :
    resolveMember t raw = .ok (.field ft) ↔ ∃ f, fieldOf t raw = some f ∧
      ft = ⟨f.id, (raw.index.map Int32.ofNat).getD FieldTarget.lastEntry⟩ := by
  unfold resolveMember
  cases fieldOf t raw with
  | some f => simp [eq_comm]
  | none =>
    simp only [reduceCtorEq, false_and, exists_false, iff_false]
    split
    · simp
    · split <;> simp
    · simp

/-- A method is meant if it is the only candidate and no field comes first. -/
theorem resolveMember_eq_method_iff :
    resolveMember t raw = .ok (.method mid) ↔ fieldOf t raw = none ∧ raw.index = none ∧
      ∃ m, candidates t raw = [m] ∧ m.id = mid := by
  unfold resolveMember
  cases fieldOf t raw with
  | some f => simp
  | none =>
    simp only [true_and]
    split
    · rename_i hc
      simp [hc]
    · rename_i m hc
      cases raw.index <;> simp [hc]
    · rename_i ms hnil hone
      simp only [reduceCtorEq, false_iff, not_and, not_exists]
      exact fun _ m hm => absurd hm (hone m)

/-- A field is meant by its name where no parameter types are given. -/
theorem fieldOf_eq_some_iff {f : FieldDef} :
    fieldOf t raw = some f ↔ raw.descriptor = none ∧ t.fieldNamed? raw.member = some f := by
  unfold fieldOf
  cases raw.descriptor <;> simp

/-- The candidates are the methods of the name, and of the parameter types if these are given. -/
theorem mem_candidates_iff :
    m ∈ candidates t raw ↔ m ∈ t.methods ∧ m.name = raw.member ∧
      ∀ params, raw.descriptor = some params → compact m.signature.descriptors = params := by
  rw [candidates, TypeDef.methodsNamed, List.mem_filter, List.mem_filter, beq_iff_eq, and_assoc]
  cases raw.descriptor with
  | none => simp
  | some params => simp [hasParameters, compact]

/-- What a reference means is a member of the type that it was looked for in. -/
theorem has_of_resolveMember (h : resolveMember t raw = .ok target) : t.Has target := by
  cases target with
  | field ft =>
    obtain ⟨f, hf, rfl⟩ := resolveMember_eq_field_iff.mp h
    obtain ⟨-, hf⟩ := fieldOf_eq_some_iff.mp hf
    exact ⟨f, List.mem_of_find?_eq_some hf, rfl⟩
  | method mid =>
    obtain ⟨-, -, m, hm, hid⟩ := resolveMember_eq_method_iff.mp h
    have hmem : m ∈ candidates t raw := hm ▸ List.mem_singleton_self m
    exact ⟨m, (mem_candidates_iff.mp hmem).1, hid⟩

/-- What a reference means belongs to the type that it was looked for in. -/
theorem owner_of_resolveMember (ht : t.SoundAt id) (h : resolveMember t raw = .ok target) :
    target.owner = id := by
  have hhas := has_of_resolveMember h
  cases target with
  | field ft =>
    obtain ⟨f, hf, hid⟩ := hhas
    obtain ⟨j, hj⟩ := List.mem_iff_getElem?.mp hf
    rw [Target.owner, ← hid, ht.field_id j f hj]
  | method mid =>
    obtain ⟨m, hm, hid⟩ := hhas
    obtain ⟨j, hj⟩ := List.mem_iff_getElem?.mp hm
    rw [Target.owner, ← hid, ht.method_id j m hj]

/-- A member is found by the full name of its type exactly if it is found in the type and nothing
shadows the name: a longer name leads to another type. -/
theorem resolves_path_iff (hb : s.Buildable) (ht : s.type? id = some t) (hpath : raw.path = t.path)
    (howner : target.owner = id) :
    (∃ id' t', s.resolveType base raw = some id' ∧ s.type? id' = some t' ∧
      resolveMember t' raw = .ok target) ↔
      ¬ s.Shadowed base t.qualifiedName ∧ resolveMember t raw = .ok target := by
  have hne : raw.path ≠ [] := by
    rw [hpath, TypeDef.path]
    simpa using Text.splitOn_ne_nil
  have hjoined : raw.joinedPath = t.qualifiedName := by
    rw [RawReference.joinedPath, hpath, t.join_path]
  have hlookup : s.lookup? t.qualifiedName = some id :=
    hb.sound.lookup?_eq_some_iff.mpr ⟨t, ht, rfl⟩
  constructor
  · rintro ⟨id', t', hid', ht', hmember⟩
    obtain rfl : id' = id :=
      (owner_of_resolveMember (hb.sound.type?_sound ht') hmember).symm.trans howner
    obtain rfl : t' = t := Option.some.inj (ht'.symm.trans ht)
    refine ⟨?_, hmember⟩
    intro hshadowed
    rw [← hjoined] at hshadowed
    obtain ⟨outer, houter⟩ := resolveType_of_shadowed hb.named hne hshadowed
    rw [hid', eq_comm, hb.sound.lookup?_eq_some_iff, hjoined] at houter
    obtain ⟨t'', ht'', hname⟩ := houter
    obtain rfl : t'' = t' := Option.some.inj (ht''.symm.trans ht)
    have hlength := congrArg String.length hname
    simp only [String.length_append] at hlength
    have hdot : ".".length = 1 := rfl
    omega
  · rintro ⟨hshadowed, hmember⟩
    rw [← hjoined] at hshadowed hlookup
    exact ⟨id, t, (resolveType_of_not_shadowed hb.named hne hshadowed).trans hlookup, ht, hmember⟩

section Printed

variable {ft : FieldTarget} {f : FieldDef}

private theorem headText_toList (t : TypeDef) (name : String) (rest : List Char) :
    RawReference.headText (Text.splitOn '.' t.qualifiedName.toList) name.toList rest =
      (t.qualifiedName ++ "#" ++ name).toList ++ rest := by
  simp [RawReference.headText, Text.intercalate_splitOn, String.toList_append]

private theorem index_of_fits {n : Nat} (h : IntegerWidth.w32.Fits n) :
    (Int32.ofNat n).toInt = n ∧ 0 ≤ Int32.ofNat n := by
  have hlt : n < 2 ^ 31 := Int.ofNat_lt.mp h.2
  have hvalue := Int32.toInt_ofNat_of_lt hlt
  refine ⟨hvalue, Int32.le_iff_toInt_le.mpr ?_⟩
  rw [hvalue]
  exact Int.natCast_nonneg n

/-- The canonical text of a field is read as the path of its type, its name and its index. -/
theorem scan_canonical_field (trim : Bool) (hb : s.Buildable)
    (ht : s.type? ft.field.owner = some t) (hf : s.field? ft.field = some f)
    {index : Option Nat} (hindex : ft.index = (index.map Int32.ofNat).getD FieldTarget.lastEntry)
    (hfits : ∀ n, index = some n → IntegerWidth.w32.Fits n) :
    RawReference.scan trim (s.canonical (.field ft)).toList =
      .ok { path := t.path, member := f.name, index } := by
  have hsegments := (hb.named _ t ht).segments
  have hslot : t.fields[ft.field.slot]? = some f := by
    rw [← hf, field?, ht, Option.bind_some]
  have hname := (hb.sound.type?_sound ht).identifiers f (List.mem_of_getElem? hslot)
  have hkey : s.fieldKey ft.field = t.qualifiedName ++ "#" ++ f.name := by
    rw [fieldKey, hf, memberKey, typeName, ht]
    rfl
  have htext : (s.canonical (.field ft)).toList =
      RawReference.headText (Text.splitOn '.' t.qualifiedName.toList) f.name.toList
        (RawReference.indexText index) := by
    rw [headText_toList, canonical, hkey, hindex]
    cases index with
    | none => simp [FieldTarget.lastEntry, RawReference.indexText]
    | some n =>
      obtain ⟨hvalue, hnonneg⟩ := index_of_fits (hfits n rfl)
      simp only [Option.map_some, Option.getD_some, if_pos hnonneg, hvalue]
      simp [digitsOfInt, String.toList_append, RawReference.indexText]
  have hbare : Text.Bare (RawReference.indexText index) := by
    cases index with
    | none => exact Text.bare_of_forall (List.forall_mem_nil _)
    | some n => exact Text.bare_enclosed (isBlank_sign '[' (by simp)) (isBlank_sign ']' (by simp)) _
  rw [htext, RawReference.scan_headText trim hsegments hname hbare,
    RawReference.scanFrom_field 0 hsegments hname index hfits,
    String.ofList_toList]
  rfl

/-- The canonical text of a method is read exactly if its parameter types can be listed. -/
theorem scan_canonical_method_iff (trim : Bool) (hb : s.Buildable)
    (ht : s.type? mid.owner = some t) (hm : s.method? mid = some m) :
    RawReference.scan trim (s.canonical (.method mid)).toList = .ok raw ↔
      (∀ c ∈ (Text.join ", " m.signature.descriptors).toList, Cursor.isPlain c = true) ∧
        ∃ params, Cursor.Lists (Text.join ", " m.signature.descriptors).toList params ∧
          raw = { path := t.path, member := m.name, descriptor := some params } := by
  have hsegments := (hb.named _ t ht).segments
  have hslot : t.methods[mid.slot]? = some m := by
    rw [← hm, method?, ht, Option.bind_some]
  have hname := (hb.named _ t ht).methods m (List.mem_of_getElem? hslot)
  have hkey : s.methodKey mid = t.qualifiedName ++ "#" ++ m.name := by
    rw [methodKey, hm, memberKey, typeName, ht]
    rfl
  have htext : (s.canonical (.method mid)).toList =
      RawReference.headText (Text.splitOn '.' t.qualifiedName.toList) m.name.toList
        ('(' :: ((Text.join ", " m.signature.descriptors).toList ++ [')'])) := by
    rw [headText_toList, canonical, hkey, hm]
    simp [String.toList_append]
  have hbare := Text.bare_enclosed (isBlank_sign '(' (by simp)) (isBlank_sign ')' (by simp))
    (Text.join ", " m.signature.descriptors).toList
  rw [htext, RawReference.scan_headText trim hsegments hname hbare,
    RawReference.scanFrom_method_iff 0 hsegments hname, String.ofList_toList]
  rfl

end Printed

/-- Whether the canonical text of what a reference means is read as the same from a type. -/
def ReadsBack (s : Schema) (trim : Bool) (base : TypeId) (target : Target) : Prop :=
  ∃ r, s.parse trim base (s.canonical target) = .ok r ∧ r.target = target

private theorem readsBack_iff :
    s.ReadsBack trim base target ↔
      ∃ raw, RawReference.scan trim (s.canonical target).toList = .ok raw ∧
        ∃ id t, s.resolveType base raw = some id ∧ s.type? id = some t ∧
          resolveMember t raw = .ok target := by
  constructor
  · rintro ⟨r, h, rfl⟩
    obtain ⟨raw, id, t, hraw, hid, ht, hmember, -⟩ := parse_eq_ok_iff.mp h
    exact ⟨raw, hraw, id, t, hid, ht, hmember⟩
  · rintro ⟨raw, hraw, id, t, hid, ht, hmember⟩
    exact ⟨⟨target, s.canonical target⟩,
      parse_eq_ok_iff.mpr ⟨raw, id, t, hraw, hid, ht, hmember, rfl⟩, rfl⟩

section Parsed

variable {trim' : Bool} {base' : TypeId}

private theorem typeName_of_type? (ht : s.type? id = some t) : s.typeName id = t.qualifiedName := by
  rw [typeName, ht]

private theorem field?_of_fieldOf {f : FieldDef} (hs : t.SoundAt id) (ht : s.type? id = some t)
    (hf : fieldOf t raw = some f) : s.field? f.id = some f ∧ t.fieldNamed? f.name = some f := by
  obtain ⟨-, hnamed⟩ := fieldOf_eq_some_iff.mp hf
  have hfound := List.find?_some hnamed
  have hname : f.name = raw.member := beq_iff_eq.mp hfound
  obtain ⟨j, hj⟩ := List.mem_iff_getElem?.mp (List.mem_of_find?_eq_some hnamed)
  constructor
  · rw [hs.field_id j f hj, field?, ht]
    exact hj
  · rw [hname]
    exact hnamed

/-- The canonical text of a field is read back where nothing shadows the name of its type. -/
theorem readsBack_field_iff {ft : FieldTarget} (hb : s.Buildable)
    (h : s.parse trim base text = .ok r) (hr : r.target = .field ft) :
    s.ReadsBack trim' base' (.field ft) ↔ ¬ s.Shadowed base' (s.typeName ft.field.owner) := by
  obtain ⟨raw, id, t, hraw, -, ht, hmember, -⟩ := parse_eq_ok_iff.mp h
  rw [hr] at hmember
  obtain rfl : ft.field.owner = id := owner_of_resolveMember (hb.sound.type?_sound ht) hmember
  obtain ⟨f, hf, hft⟩ := resolveMember_eq_field_iff.mp hmember
  obtain ⟨hfield, hnamed⟩ := field?_of_fieldOf (hb.sound.type?_sound ht) ht hf
  have hid : ft.field = f.id := congrArg FieldTarget.field hft
  have hscan := scan_canonical_field trim' hb ht (hid ▸ hfield) (congrArg FieldTarget.index hft)
    (fun n hn => RawReference.fits_of_scan hraw hn)
  rw [readsBack_iff, hscan]
  simp only [Except.ok.injEq, exists_eq_left']
  rw [resolves_path_iff hb ht rfl rfl, resolveMember_eq_field_iff, typeName_of_type? ht]
  simpa [fieldOf, hnamed] using fun _ => hft

private theorem resolveMember_described_iff {path params : List String} (ht : t.SoundAt id)
    (h : resolveMember t raw = .ok (.method m.id)) (hm : m ∈ t.methods) :
    resolveMember t { path, member := m.name, descriptor := some params } = .ok (.method m.id) ↔
      params = compact m.signature.descriptors := by
  obtain ⟨-, -, m', hcandidates, hid⟩ := resolveMember_eq_method_iff.mp h
  have hmem : m' ∈ candidates t raw := hcandidates ▸ List.mem_singleton_self m'
  obtain ⟨hmem, hname, hparams⟩ := mem_candidates_iff.mp hmem
  obtain rfl : m' = m := ht.eq_of_method_id hmem hm hid
  rw [resolveMember_eq_method_iff]
  constructor
  · rintro ⟨-, -, m'', hc, hid⟩
    have hmem : m'' ∈ candidates t _ := hc ▸ List.mem_singleton_self m''
    obtain ⟨hmem, -, hparams⟩ := mem_candidates_iff.mp hmem
    obtain rfl : m'' = m' := ht.eq_of_method_id hmem hm hid
    exact (hparams params rfl).symm
  · rintro rfl
    -- the parameter types leave the one candidate that there was
    have hsame : candidates t
          { path, member := m'.name, descriptor := some (compact m'.signature.descriptors) } =
        (candidates t raw).filter (hasParameters · (compact m'.signature.descriptors)) := by
      rw [candidates, candidates, hname]
      cases hd : raw.descriptor with
      | none => simp
      | some ps =>
        rw [hparams ps hd]
        simp
    refine ⟨rfl, rfl, m', ?_, rfl⟩
    rw [hsame, hcandidates]
    simp [hasParameters, compact]

/-- The canonical text of a method is read back where nothing shadows the name of its type, if its
parameter types can be listed. -/
theorem readsBack_method_iff (hb : s.Buildable) (h : s.parse trim base text = .ok r)
    (hr : r.target = .method mid) (hm : s.method? mid = some m) :
    s.ReadsBack trim' base' (.method mid) ↔
      ¬ s.Shadowed base' (s.typeName mid.owner) ∧ Printable m.signature.descriptors := by
  obtain ⟨raw, id, t, hraw, -, ht, hmember, -⟩ := parse_eq_ok_iff.mp h
  rw [hr] at hmember
  obtain rfl : mid.owner = id := owner_of_resolveMember (hb.sound.type?_sound ht) hmember
  obtain rfl : m.id = mid := hb.sound.id_of_method? hm
  have hmem : m ∈ t.methods := by
    rw [method?, ht] at hm
    exact List.mem_of_getElem? hm
  have hreads (params : List String) :
      (∃ id t',
        s.resolveType base' { path := t.path, member := m.name, descriptor := some params } =
          some id ∧ s.type? id = some t' ∧
        resolveMember t' { path := t.path, member := m.name, descriptor := some params } =
          .ok (.method m.id)) ↔
      ¬ s.Shadowed base' t.qualifiedName ∧ params = compact m.signature.descriptors := by
    rw [resolves_path_iff hb ht rfl rfl,
      resolveMember_described_iff (hb.sound.type?_sound ht) hmember hmem]
  rw [readsBack_iff, typeName_of_type? ht, ← lists_join_iff]
  constructor
  · rintro ⟨raw', hscan, hresolves⟩
    obtain ⟨hplain, params, hlists, rfl⟩ := (scan_canonical_method_iff trim' hb ht hm).mp hscan
    obtain ⟨hshadowed, rfl⟩ := (hreads params).mp hresolves
    exact ⟨hshadowed, hplain, hlists⟩
  · rintro ⟨hshadowed, hplain, hlists⟩
    exact ⟨_, (scan_canonical_method_iff trim' hb ht hm).mpr ⟨hplain, _, hlists, rfl⟩,
      (hreads _).mpr ⟨hshadowed, rfl⟩⟩

/-- A reference that was read to a method names one of the schema. -/
theorem method?_of_parse (hb : s.Buildable) (h : s.parse trim base text = .ok r)
    (hr : r.target = .method mid) : ∃ m, s.method? mid = some m := by
  obtain ⟨raw, id, t, -, -, ht, hmember, -⟩ := parse_eq_ok_iff.mp h
  rw [hr] at hmember
  obtain ⟨-, -, m, hcandidates, rfl⟩ := resolveMember_eq_method_iff.mp hmember
  have hmem : m ∈ candidates t raw := hcandidates ▸ List.mem_singleton_self m
  obtain ⟨j, hj⟩ := List.mem_iff_getElem?.mp (mem_candidates_iff.mp hmem).1
  rw [(hb.sound.type?_sound ht).method_id j m hj]
  exact ⟨m, Option.bind_eq_some_iff.mpr ⟨t, ht, hj⟩⟩

/-- The canonical text of a reference that was read is read as the same, from any type and however
blanks are treated, exactly if nothing shadows the name of its type from there and the parameter
types of a method can be listed. -/
theorem readsBack_parsed_iff (hb : s.Buildable) (h : s.parse trim base text = .ok r) (trim' : Bool)
    (base' : TypeId) :
    s.ReadsBack trim' base' r.target ↔ ¬ s.Shadowed base' (s.typeName r.target.owner) ∧
      ∀ mid m, r.target = .method mid → s.method? mid = some m →
        Printable m.signature.descriptors := by
  cases hr : r.target with
  | field ft =>
    rw [readsBack_field_iff hb h hr]
    simp [Target.owner]
  | method mid =>
    obtain ⟨m, hm⟩ := method?_of_parse hb h hr
    rw [readsBack_method_iff hb h hr hm]
    refine and_congr_right fun _ => ⟨?_, fun hp => hp mid m rfl hm⟩
    rintro hp _ m' ⟨⟩ hm'
    obtain rfl : m = m' := Option.some.inj (hm.symm.trans hm')
    exact hp

/-- From a type where nothing shadows the name of the type, and from no other, the canonical text of
a field is read as that field, and so is that of a method with parameter types that can be
listed. -/
theorem readsBack_iff_not_shadowed (hb : s.Buildable) (h : s.parse trim base text = .ok r)
    (hprintable : ∀ mid m, r.target = .method mid → s.method? mid = some m →
      Printable m.signature.descriptors) (trim' : Bool) (base' : TypeId) :
    s.ReadsBack trim' base' r.target ↔ ¬ s.Shadowed base' (s.typeName r.target.owner) := by
  cases hr : r.target with
  | field ft => exact readsBack_field_iff hb h hr
  | method mid =>
    obtain ⟨m, hm⟩ := method?_of_parse hb h hr
    rw [readsBack_method_iff hb h hr hm]
    exact and_iff_left (hprintable mid m hr hm)

end Parsed

/-- A lamp in a lamp, each with a power switch; the inner one can be dimmed. -/
def nestedLamps : Schema where
  types :=
    [{ id := ⟨0⟩, package := "", simpleName := "Lamp", qualifiedName := "Lamp", nested := [⟨1⟩]
       fields := [{ id := ⟨⟨0⟩, 0⟩, name := "power", type := .bool }] },
     { id := ⟨1⟩, package := "", simpleName := "Lamp", enclosing := some ⟨0⟩
       qualifiedName := "Lamp.Lamp"
       fields := [{ id := ⟨⟨1⟩, 0⟩, name := "power", type := .bool }]
       methods :=
         [{ id := ⟨⟨1⟩, 0⟩, name := "dim"
            signature := .predicate [.exact (.number .int32), .any] }] }]

theorem buildable_nestedLamps : nestedLamps.Buildable := by
  have h₁ := Buildable.empty.rootType
    (show addRootType {} "" "Lamp" = .ok (_, _) from rfl)
  have h₂ := h₁.nestedType (show addNestedType _ ⟨0⟩ "Lamp" = .ok (_, _) from rfl)
  have h₃ := h₂.field (show addField _ ⟨0⟩ "power" .bool = .ok (_, _) from rfl)
  have h₄ := h₃.field (show addField _ ⟨1⟩ "power" .bool = .ok (_, _) from rfl)
  exact h₄.method (show addMethod _ ⟨1⟩ "dim" (.predicate [.exact (.number .int32), .any]) =
    .ok (_, _) from rfl)

private theorem not_shadowed_inner : ¬ nestedLamps.Shadowed ⟨0⟩ "Lamp.Lamp" :=
  (not_shadowed_iff buildable_nestedLamps.named).mpr ⟨by decide, by decide⟩

/-- The power switch of the inner lamp is read back from the outer one. -/
theorem inner_power_reads_back :
    nestedLamps.ReadsBack false ⟨0⟩ (.field ⟨⟨⟨1⟩, 0⟩, -1⟩) := by
  have h : nestedLamps.parse true ⟨1⟩ " power" = .ok ⟨.field ⟨⟨⟨1⟩, 0⟩, -1⟩, " power"⟩ := rfl
  refine (readsBack_parsed_iff buildable_nestedLamps h false ⟨0⟩).mpr ⟨not_shadowed_inner, ?_⟩
  rintro mid m ⟨⟩

/-- So is its dimmer, with its parameter types. -/
theorem inner_dimmer_reads_back :
    nestedLamps.ReadsBack false ⟨0⟩ (.method ⟨⟨1⟩, 0⟩) := by
  have h : nestedLamps.parse true ⟨1⟩ "dim" = .ok ⟨.method ⟨⟨1⟩, 0⟩, "dim"⟩ := rfl
  refine (readsBack_iff_not_shadowed buildable_nestedLamps h ?_ false ⟨0⟩).mpr not_shadowed_inner
  rintro mid m ⟨⟩ ⟨⟩
  decide +kernel

/-- The power switch of the outer lamp is not: its name leads to the inner one. -/
theorem outer_power_goes_astray :
    nestedLamps.Buildable ∧
      nestedLamps.parse false ⟨0⟩ "power" = .ok ⟨.field ⟨⟨⟨0⟩, 0⟩, -1⟩, "power"⟩ ∧
      nestedLamps.parse false ⟨0⟩ (nestedLamps.canonical (.field ⟨⟨⟨0⟩, 0⟩, -1⟩)) =
        .ok ⟨.field ⟨⟨⟨1⟩, 0⟩, -1⟩, "Lamp#power"⟩ ∧
      ¬ nestedLamps.ReadsBack false ⟨0⟩ (.field ⟨⟨⟨0⟩, 0⟩, -1⟩) := by
  have hastray : nestedLamps.parse false ⟨0⟩ (nestedLamps.canonical (.field ⟨⟨⟨0⟩, 0⟩, -1⟩)) =
      .ok ⟨.field ⟨⟨⟨1⟩, 0⟩, -1⟩, "Lamp#power"⟩ := rfl
  refine ⟨buildable_nestedLamps, rfl, hastray, ?_⟩
  rintro ⟨r, h, hr⟩
  rw [hastray] at h
  cases h
  cases hr

end Schema
end FieldGate
