import FieldGate.Proofs.Noted
import FieldGate.Proofs.Variables

/-! The type that each position of a call has, and what is checked there. A call is accepted if its
arguments can be counted off, its variables bound, its entries accepted and its literals read. -/
namespace FieldGate.Signature

open ValueType

/-- The parameter declared for a position. Past the fixed ones it is the variadic element. -/
def declared? (s : Signature) (i : Nat) : Option ParamType :=
  if i < s.params.length then s.params[i]? else s.variadic

def tail (s : Signature) (types : List ValueType) : List ValueType := types.drop s.params.length

/-- What a variable stands for: what its entries in fixed positions have in common, and without any
what those in variadic position do. -/
def standsFor? (s : Signature) (types : List ValueType) (name : String) : Option ParamType :=
  (common? (takenIn s.params types name)).or
    (if s.variadic.any (ParamType.isVariable name) then common? (s.tail types) else none)

def positionType (s : Signature) (types : List ValueType) (i : Nat) : ParamType → ParamType
  | .generic name bound => (s.standsFor? types name).getD bound.toParam
  | p => if i < s.params.length then p else (common? (s.tail types)).getD p

/-- No variable meets entries with nothing in common. An element whose variable is bound already has
nothing to gather. -/
structure Binds (s : Signature) (types : List ValueType) : Prop where
  fixed : ∀ name, Alike (takenIn s.params types name)
  variadic : ∀ element, s.variadic = some element →
    (∃ name bound, element = .generic name bound ∧ takenIn s.params types name ≠ []) ∨
      Gathers element (s.tail types)

variable {s : Signature} {types : List ValueType} {literals : List String} {values : List Value}
  {count i : Nat} {p q element : ParamType} {t : ValueType} {n name : String} {bound : TypeBound}

theorem admits_iff :
    s.admits count = true ↔
      if s.isVariadic then s.params.length ≤ count else count = s.params.length := by
  unfold admits
  split <;> simp

/-- Every position of a call has a declared parameter. -/
theorem exists_declared (h : s.admits count = true) (hi : i < count) :
    ∃ p, s.declared? i = some p := by
  unfold declared?
  split
  · rename_i hfixed
    exact ⟨_, List.getElem?_eq_getElem hfixed⟩
  · rename_i hvariadic
    rw [admits_iff] at h
    split at h
    · rename_i hsome
      exact Option.isSome_iff_exists.mp hsome
    · omega

/-- A parameter that is no variable stands for itself, or in variadic position for what the entries
there have in common. -/
theorem positionType_of_ne_generic (hp : ∀ n bound, p ≠ .generic n bound) (i : Nat) :
    s.positionType types i p =
      if i < s.params.length then p else (common? (s.tail types)).getD p := by
  cases p with
  | generic n bound => exact absurd rfl (hp n bound)
  | _ => rfl

/-- An element that is no variable has all variadic entries to gather. -/
theorem Binds.gathers_of_ne_generic (h : s.Binds types) (hs : s.variadic = some element)
    (hp : ∀ n bound, element ≠ .generic n bound) : Gathers element (s.tail types) := by
  refine (h.variadic element hs).resolve_left ?_
  rintro ⟨n, bound, rfl, -⟩
  exact hp n bound rfl

/-- So has a variable that takes in nothing in fixed positions. -/
theorem Binds.gathers_of_unbound (h : s.Binds types)
    (hs : s.variadic = some (.generic name bound))
    (hnone : common? (takenIn s.params types name) = none) :
    Gathers (.generic name bound) (s.tail types) := by
  refine (h.variadic _ hs).resolve_left ?_
  rintro ⟨n, bound', heq, hne⟩
  cases heq
  exact hne ((h.fixed name).eq_nil_of_common? hnone)

private theorem resolveFixed_fst (b : Bindings) (hb : ∀ name, b.get? name = s.standsFor? types name)
    (hi : i < s.params.length) (p : ParamType) :
    (resolveFixed b p).1 = s.positionType types i p := by
  cases p with
  | generic name bound =>
    rw [resolveFixed, positionType, ← hb]
    cases b.get? name <;> rfl
  | _ => simp only [resolveFixed, positionType, if_pos hi]

/-- What a variadic element is resolved to. There is no defect just if its entries can be gathered
where they have to be. Variables then stand for what they should, and the positions have the type
that they should. -/
structure Resolves (s : Signature) (types : List ValueType) (element : ParamType)
    (r : ParamType × Bindings × List ArgumentDefect) : Prop where
  defects_iff : r.2.2 = [] ↔
    (∃ name bound, element = .generic name bound ∧ takenIn s.params types name ≠ []) ∨
      Gathers element (s.tail types)
  type_eq : r.2.2 = [] → ∀ i, s.params.length ≤ i → r.1 = s.positionType types i element
  get?_eq : r.2.2 = [] → ∀ name, r.2.1.get? name = s.standsFor? types name

section Resolve

variable {b : Bindings} (h : Tallies b (takenIn s.params types))
include h

private theorem standsFor?_eq (hs : s.variadic = some element) (name : String) :
    s.standsFor? types name =
      (b.get? name).or (if element.isVariable name then common? (s.tail types) else none) := by
  rw [standsFor?, hs, Option.any_some, h.bound]

private theorem standsFor?_generic (hs : s.variadic = some (.generic n bound)) (name : String) :
    s.standsFor? types name =
      (b.get? name).or (if n = name then common? (s.tail types) else none) := by
  rw [standsFor?_eq h hs]
  simp only [ParamType.isVariable, beq_iff_eq]

private theorem resolves_bound (hs : s.variadic = some (.generic n bound))
    (hget : b.get? n = some q) :
    s.Resolves types (.generic n bound)
      (resolveVariadic b (.generic n bound) (s.tail types)) := by
  have hne : takenIn s.params types n ≠ [] :=
    (exists_common?_iff.mp ⟨q, (h.bound n).symm.trans hget⟩).1
  have hresolve : resolveVariadic b (.generic n bound) (s.tail types) = (q, b, []) := by
    simp only [resolveVariadic, hget]
  rw [hresolve]
  refine ⟨iff_of_true rfl (.inl ⟨n, bound, rfl, hne⟩), fun _ i hi => ?_, fun _ name => ?_⟩
  · rw [positionType, standsFor?_generic h hs, hget, Option.some_or, Option.getD_some]
  · rw [standsFor?_generic h hs]
    split_ifs with hname
    · subst hname
      rw [hget, Option.some_or]
    · rw [Option.or_none]

private theorem resolves_unbound (hs : s.variadic = some (.generic n bound))
    (hget : b.get? n = none) :
    s.Resolves types (.generic n bound)
      (resolveVariadic b (.generic n bound) (s.tail types)) := by
  have hnil : takenIn s.params types n = [] :=
    (h.alike n).eq_nil_of_common? ((h.bound n).symm.trans hget)
  obtain ⟨hiff, hresolved⟩ := resolveVariadic_unbound hget bound (s.tail types)
  refine ⟨?_, fun hdefects i hi => ?_, fun hdefects name => ?_⟩
  · rw [hiff, or_iff_right]
    rintro ⟨name, bound', heq, hne⟩
    cases heq
    exact hne hnil
  · rw [(hresolved hdefects).1, positionType, standsFor?_generic h hs, hget, if_pos rfl,
      Option.none_or]
  · rw [(hresolved hdefects).2, standsFor?_generic h hs]

private theorem resolves_of_ne_generic (hs : s.variadic = some element)
    (hp : ∀ n bound, element ≠ .generic n bound) :
    s.Resolves types element (resolveVariadic b element (s.tail types)) := by
  have hvariable (name : String) : element.isVariable name = false := by
    cases element with
    | generic n bound => exact absurd rfl (hp n bound)
    | _ => rfl
  obtain ⟨hiff, hresolved⟩ := resolveVariadic_declared hp b (s.tail types)
  refine ⟨?_, fun hdefects i hi => ?_, fun hdefects name => ?_⟩
  · rw [hiff, or_iff_right]
    rintro ⟨name, bound, rfl, -⟩
    exact hp name bound rfl
  · rw [(hresolved hdefects).1, positionType_of_ne_generic hp, if_neg (Nat.not_lt.mpr hi)]
  · rw [(hresolved hdefects).2, standsFor?_eq h hs, hvariable, if_neg Bool.false_ne_true,
      Option.or_none]

private theorem resolves_variadic (hs : s.variadic = some element) :
    s.Resolves types element (resolveVariadic b element (s.tail types)) := by
  by_cases hp : ∃ n bound, element = .generic n bound
  · obtain ⟨n, bound, rfl⟩ := hp
    cases hget : b.get? n with
    | none => exact resolves_unbound h hs hget
    | some q => exact resolves_bound h hs hget
  · push Not at hp
    exact resolves_of_ne_generic h hs hp

end Resolve

/-- The bindings of a call, the part of its positions past the fixed ones, and the defects found on
the way. -/
theorem positions_eq (s : Signature) (types : List ValueType) (count : Nat) :
    s.positions types count =
      match s.variadic with
      | none =>
        let bound := bindFixed [] s.params types
        ((s.params.map fun p => (resolveFixed bound.1 p).1), bound.2,
          s.params.flatMap fun p => (resolveFixed bound.1 p).2)
      | some element =>
        let bound := bindFixed [] s.params types
        let last := resolveVariadic bound.1 element (s.tail types)
        ((s.params.map fun p => (resolveFixed last.2.1 p).1) ++
            List.replicate (count - s.params.length) last.1,
          bound.2 ++ last.2.2, s.params.flatMap fun p => (resolveFixed last.2.1 p).2) := by
  unfold positions
  cases s.variadic <;>
    simp [tail, List.map_map, List.flatMap_map, Function.comp_def]

private theorem tallies_fixed (hdefects : (bindFixed [] s.params types).2 = []) :
    Tallies (bindFixed [] s.params types).1 (takenIn s.params types) :=
  (bindFixed_spec tallies_nil s.params types).2 hdefects

private theorem bindFixed_eq_nil_iff :
    (bindFixed [] s.params types).2 = [] ↔ ∀ name, Alike (takenIn s.params types name) :=
  (bindFixed_spec tallies_nil s.params types).1

/-- The variables of a call are bound without a defect just if it binds. -/
theorem positions_defects_iff (s : Signature) (types : List ValueType) (count : Nat) :
    (s.positions types count).2.1 = [] ↔ s.Binds types := by
  rw [positions_eq]
  cases hs : s.variadic with
  | none =>
    refine bindFixed_eq_nil_iff.trans ⟨fun h => ⟨h, ?_⟩, fun h => h.fixed⟩
    intro element helement
    rw [hs] at helement
    cases helement
  | some element =>
    dsimp only
    rw [List.append_eq_nil_iff]
    constructor
    · rintro ⟨hfixed, hlast⟩
      refine ⟨bindFixed_eq_nil_iff.mp hfixed, ?_⟩
      intro element' helement
      obtain rfl := Option.some.inj (hs.symm.trans helement)
      exact (resolves_variadic (tallies_fixed hfixed) hs).defects_iff.mp hlast
    · intro h
      have hfixed := bindFixed_eq_nil_iff.mpr h.fixed
      have hresolves := resolves_variadic (tallies_fixed hfixed) hs
      exact ⟨hfixed, hresolves.defects_iff.mpr (h.variadic element hs)⟩

/-- Each position of a call that binds has the type that it should. -/
theorem positions_getElem? (h : s.Binds types) (hcount : s.admits count = true) (hi : i < count) :
    (s.positions types count).1[i]? = (s.declared? i).map (s.positionType types i) := by
  have hfixed := bindFixed_eq_nil_iff.mpr h.fixed
  have htally := tallies_fixed hfixed
  rw [positions_eq, declared?]
  cases hs : s.variadic with
  | none =>
    rw [admits_iff, isVariadic, hs] at hcount
    simp only [Option.isSome_none, Bool.false_eq_true, if_false] at hcount
    have hlt : i < s.params.length := by omega
    have hb (name : String) : (bindFixed [] s.params types).1.get? name =
        s.standsFor? types name := by
      rw [htally.bound, standsFor?, hs]
      simp
    rw [if_pos hlt, List.getElem?_map]
    exact congrArg (Option.map · _) (funext (resolveFixed_fst _ hb hlt))
  | some element =>
    have hresolves := resolves_variadic htally hs
    have hdefects := hresolves.defects_iff.mpr (h.variadic element hs)
    dsimp only
    split_ifs with hlt
    · rw [List.getElem?_append_left (by simpa using hlt), List.getElem?_map]
      exact congrArg (Option.map · _)
        (funext (resolveFixed_fst _ (hresolves.get?_eq hdefects) hlt))
    · rw [List.getElem?_append_right (by simpa using hlt), List.length_map,
        List.getElem?_replicate_of_lt (by omega), hresolves.type_eq hdefects i (Nat.not_lt.mp hlt)]
      rfl

private theorem checkEntries_eq_nil_iff {params : List ParamType} {position : Nat} :
    checkEntries position params types = [] ↔
      ∀ (i : Nat) (p : ParamType) (t : ValueType), params[i]? = some p → types[i]? = some t →
        p.accepts t = true := by
  induction params generalizing types position with
  | nil => simp [checkEntries]
  | cons q params ih =>
    cases types with
    | nil => simp [checkEntries]
    | cons u types =>
      rw [checkEntries, List.append_eq_nil_iff, ih]
      constructor
      · rintro ⟨hfirst, hrest⟩ i p t hp ht
        cases i with
        | zero =>
          cases hp
          cases ht
          simpa using hfirst
        | succ i => exact hrest i p t hp ht
      · intro h
        refine ⟨?_, fun i p t hp ht => h (i + 1) p t hp ht⟩
        simpa using h 0 q u rfl rfl

private theorem length_positions (h : s.Binds types) (hcount : s.admits count = true) :
    count ≤ (s.positions types count).1.length := by
  by_contra hlt
  rw [Nat.not_le] at hlt
  obtain ⟨p, hp⟩ := exists_declared hcount hlt
  have hnone := positions_getElem? h hcount hlt
  rw [hp, List.getElem?_eq_none_iff.mpr (Nat.le_refl _)] at hnone
  cases hnone

private theorem entries_accepted_iff (h : s.Binds types) (hcount : s.admits count = true)
    (hle : types.length ≤ count) :
    checkEntries 0 (s.positions types count).1 types = [] ↔
      ∀ (i : Nat) (p : ParamType) (t : ValueType), s.declared? i = some p → types[i]? = some t →
        (s.positionType types i p).accepts t = true := by
  rw [checkEntries_eq_nil_iff]
  constructor
  · intro hall i p t hp ht
    obtain ⟨hi, -⟩ := List.getElem?_eq_some_iff.mp ht
    refine hall i _ t ?_ ht
    rw [positions_getElem? h hcount (by omega), hp, Option.map_some]
  · intro hall i q t hq ht
    obtain ⟨hi, -⟩ := List.getElem?_eq_some_iff.mp ht
    rw [positions_getElem? h hcount (by omega)] at hq
    obtain ⟨p, hp, rfl⟩ := Option.map_eq_some_iff.mp hq
    exact hall i p t hp ht

section Literals

variable [PatternEngine]

private theorem checkLiterals_cons_eq_iff {params : List ParamType} {position : Nat} {l : String} :
    checkLiterals position (p :: params) (l :: literals) = (values, []) ↔
      ∃ v rest, values = v :: rest ∧ readLiteral p l = .ok v ∧
        checkLiterals (position + 1) params literals = (rest, []) := by
  rw [checkLiterals]
  cases hread : readLiteral p l with
  | error e => simp
  | ok v =>
    dsimp only
    constructor
    · intro h
      rw [Prod.mk.injEq] at h
      exact ⟨v, _, h.1.symm, rfl, Prod.ext rfl h.2⟩
    · rintro ⟨w, rest, rfl, hw, hrest⟩
      rw [hrest, Except.ok.inj hw]

private theorem checkLiterals_eq_iff {params : List ParamType} {position : Nat}
    (hlength : literals.length ≤ params.length) :
    checkLiterals position params literals = (values, []) ↔
      values.length = literals.length ∧
        ∀ (i : Nat) (p : ParamType) (l : String) (v : Value), params[i]? = some p →
          literals[i]? = some l → values[i]? = some v → readLiteral p l = .ok v := by
  induction literals generalizing params position values with
  | nil =>
    cases params <;> simp [checkLiterals, eq_comm]
  | cons l literals ih =>
    cases params with
    | nil => simp at hlength
    | cons p params =>
      rw [checkLiterals_cons_eq_iff]
      have hlength : literals.length ≤ params.length := Nat.le_of_succ_le_succ hlength
      constructor
      · rintro ⟨v, rest, rfl, hread, hrest⟩
        obtain ⟨hlen, hall⟩ := (ih hlength).mp hrest
        refine ⟨congrArg (· + 1) hlen, ?_⟩
        intro i p' l' v' hp hl hv
        cases i with
        | zero =>
          cases hp
          cases hl
          cases hv
          exact hread
        | succ i => exact hall i p' l' v' hp hl hv
      · rintro ⟨hlen, hall⟩
        obtain ⟨v, rest, rfl⟩ := List.exists_cons_of_length_eq_add_one hlen
        refine ⟨v, rest, rfl, hall 0 p l v rfl rfl rfl, (ih hlength).mpr ?_⟩
        exact ⟨Nat.succ.inj hlen, fun i p' l' v' => hall (i + 1) p' l' v'⟩

private theorem literals_read_iff (h : s.Binds types)
    (hcount : s.admits (types.length + literals.length) = true) :
    checkLiterals types.length
        ((s.positions types (types.length + literals.length)).1.drop types.length) literals =
          (values, []) ↔
      values.length = literals.length ∧
        ∀ (i : Nat) (p : ParamType) (l : String) (v : Value),
          s.declared? (types.length + i) = some p → literals[i]? = some l → values[i]? = some v →
          readLiteral (s.positionType types (types.length + i) p) l = .ok v := by
  have hlength := length_positions h hcount
  rw [checkLiterals_eq_iff (by rw [List.length_drop]; omega)]
  refine and_congr_right fun _ => ⟨fun hall i p l v hp hl hv => ?_, fun hall i q l v hq hl hv => ?_⟩
  · obtain ⟨hi, -⟩ := List.getElem?_eq_some_iff.mp hl
    refine hall i _ l v ?_ hl hv
    rw [List.getElem?_drop, positions_getElem? h hcount (by omega), hp, Option.map_some]
  · obtain ⟨hi, -⟩ := List.getElem?_eq_some_iff.mp hl
    rw [List.getElem?_drop, positions_getElem? h hcount (by omega)] at hq
    obtain ⟨p, hp, rfl⟩ := Option.map_eq_some_iff.mp hq
    exact hall i p l v hp hl hv

/-- What an accepted call has passed. -/
structure Passes (s : Signature) (types : List ValueType) (literals : List String)
    (values : List Value) : Prop where
  count : s.admits (types.length + literals.length) = true
  binds : s.Binds types
  accepted : ∀ (i : Nat) (p : ParamType) (t : ValueType), s.declared? i = some p →
    types[i]? = some t → (s.positionType types i p).accepts t = true
  length_eq : values.length = literals.length
  read : ∀ (i : Nat) (p : ParamType) (l : String) (v : Value),
    s.declared? (types.length + i) = some p → literals[i]? = some l → values[i]? = some v →
    readLiteral (s.positionType types (types.length + i) p) l = .ok v

private theorem result_checkArguments (hcount : s.admits (types.length + literals.length) = true) :
    (s.checkArguments types literals).result = .ok values ↔
      (s.positions types (types.length + literals.length)).2.1 = [] ∧
      checkEntries 0 (s.positions types (types.length + literals.length)).1 types = [] ∧
      checkLiterals types.length
        ((s.positions types (types.length + literals.length)).1.drop types.length) literals =
          (values, []) := by
  unfold checkArguments
  dsimp only
  rw [if_neg (by simpa using hcount)]
  cases checkLiterals types.length
      ((s.positions types (types.length + literals.length)).1.drop types.length) literals with
  | mk read bad =>
    dsimp only
    split_ifs with hempty
    · rw [List.isEmpty_iff, List.append_eq_nil_iff, List.append_eq_nil_iff] at hempty
      obtain ⟨⟨hdefects, hentries⟩, hbad⟩ := hempty
      simp [hdefects, hentries, hbad]
    · rw [List.isEmpty_iff, List.append_eq_nil_iff, List.append_eq_nil_iff] at hempty
      refine iff_of_false (fun h => by cases h) ?_
      rintro ⟨hdefects, hentries, hread⟩
      exact hempty ⟨⟨hdefects, hentries⟩, congrArg Prod.snd hread⟩

/-- A call is accepted just if its count is admitted, its variables are bound, and at each position
the entry is accepted or the literal read. -/
theorem checkArguments_eq_ok_iff_passes :
    (s.checkArguments types literals).result = .ok values ↔ s.Passes types literals values := by
  constructor
  · intro h
    have hcount : s.admits (types.length + literals.length) = true := by
      by_contra hcount
      unfold checkArguments at h
      dsimp only at h
      rw [if_pos (by simpa using hcount)] at h
      cases h
    obtain ⟨hdefects, hentries, hread⟩ := (result_checkArguments hcount).mp h
    have hbinds := (positions_defects_iff s types _).mp hdefects
    obtain ⟨hlength, hread⟩ := (literals_read_iff hbinds hcount).mp hread
    exact ⟨hcount, hbinds, (entries_accepted_iff hbinds hcount (by omega)).mp hentries, hlength,
      hread⟩
  · intro h
    refine (result_checkArguments h.count).mpr
      ⟨(positions_defects_iff s types _).mpr h.binds, ?_, ?_⟩
    · exact (entries_accepted_iff h.binds h.count (by omega)).mpr h.accepted
    · exact (literals_read_iff h.binds h.count).mpr ⟨h.length_eq, h.read⟩

end Literals

end FieldGate.Signature
